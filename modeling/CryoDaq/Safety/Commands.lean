import CryoDaq.Safety.Start

/-!
# The other commands

The stop, the emergency OFF, the reviewed-source connection, the live updates,
the acknowledgement, the interlocks, persistence failures and the monitor.

An operation that registers its abort intent before it takes `_cmd_lock` is a
stop owner from then on; `settling` is where it ceases to be one.
-/

namespace CryoDaq
namespace Safety

open Async

namespace Py

/-- Run `p` as a stop owner, who owes nothing once `p` has ended. -/
def settling {α : Type} (t : Nat) (p : Py α) : Py α := do
  let r ← Coro.attempt p
  settleStop t
  Coro.ofExcept r

/-- Register the abort intent of a scope, as a stop owner where it names
one. -/
def announceAbort (t : Nat) (channel : ChannelArg) : Py Unit := do
  Coro.update (State.onControl (Control.registerAbortIntent channel.isOmitted))
  if channel.scope.isOk then
    Coro.update (State.onControl (Control.announce t))
  else pure ()

/-- The receipt of a stop that did not go through, at the moment it is made. -/
def stopReply (channels : Finset SmuChannel) (s : State) (applied : Finset SmuChannel)
    (error : String) : Reply where
  ok := false
  state := some s.control.state
  channels := some channels
  activeChannels := some s.control.activeSources
  appliedOffChannels := some applied
  error := some error

/-- `_request_stop_owned` after `_safe_off`. -/
def finishStop (t : Nat) (operation : String) (channels : Finset SmuChannel)
    (expected : Nat) (applied : Finset SmuChannel) (interrupted : Bool) :
    Py Reply := do
  let (conflict, cancelled) ← reconcileHazardousSuccess t operation
  publishKeithleyChannelStates
  raiseIf cancelled
  observeTerminalSafetyChildren
  let s ← Coro.read
  if interrupted ∨ stopInterrupted (some expected) s then
    pure (stopReply channels s applied
      (conflict.getD
        (if s.control.state = .faultLatched then
            "Stop failed, fault latched: " ++ s.fault.reason
          else "Stop interrupted by a competing safety-authority change")))
  else
    pure
      { ok := true
        state := some s.control.state
        channels := some channels
        activeChannels := some s.control.activeSources }

/-- `_request_stop_owned`, holding `_cmd_lock`. -/
def requestStopLocked (t : Nat) (channel : ChannelArg) (expected : Nat) :
    Py Reply := do
  let scope ← Coro.ofExcept channel.scope
  let channels := State.resolveChannels scope
  let operation := if scope.isSome then "targeted stop" else "operator stop"
  let (conflict, cancelled) ← reconcileHazardousSuccess t operation
  raiseIf cancelled
  let s ← Coro.read
  match conflict with
  | some reason => pure (stopReply channels s ∅ reason)
  | none =>
      if s.control.state = .faultLatched then do
        let _ ← ensureOutputOff t scope none
        let s ← Coro.read
        pure
          { ok := false
            state := some s.control.state
            channels := some channels
            error :=
              some "System is fault-latched - acknowledge_fault required" }
      else do
        let (applied, interrupted) ←
          safeOff t (.stopped "Operator stop") channels (some expected)
        finishStop t operation channels expected applied interrupted

def requestStop (t : Nat) (channel : ChannelArg) : Py Reply := do
  announceAbort t channel
  let s ← Coro.read
  let r ← settledOwner
    (withCmdLock t
      (settling t
        (requestStopLocked t channel s.control.abortGeneration)))
  deliver r

def emergencyOff (t : Nat) (channel : ChannelArg) : Py Reply := do
  announceAbort t channel
  let r ← settledOwner (withCmdLock t (emergencyOffLocked t channel))
  deliver r

/-! ## The reviewed source -/

/-- `disconnect_reviewed_source`, once the driver is disconnected. -/
def finishDisconnect (t : Nat) (context : String) (cancelled : Bool) :
    Py Bool := do
  dropAndMove t (.reviewedSourceDisconnected context) [.faultLatched]
    (State.setConnected false)
  let (_, publishCancelled) ← settled publishKeithleyChannelStates
  raiseIf (cancelled || publishCancelled)
  pure true

/-- `disconnect_reviewed_source`, after its OFF proof. -/
def disconnectAfterProof (t : Nat) (context : String) (proof : Outcome)
    (cancelled : Bool) : Py Bool := do
  Coro.update fun s => s.setOffEvidence
    (s.globalOffEvidenceForResult (proof.toOption.getD .none))
  let s ← Coro.read
  if !(proof.isOk && s.link.offEvidence.verifiedOff) then do
    refresh
    fault t
      ("reviewed source disconnect lacked verified OFF (" ++ context ++ ")")
      .safetyManager
    raiseIf cancelled
    pure false
  else do
    let (result, disconnectCancelled) ← settledWait (.driver .disconnect)
    let cancelled := cancelled || disconnectCancelled
    let s ← Coro.read
    if !result.isOk ∨ s.driverAttr Driver.connected .none ≠ .bool false then do
      fault t
        ("reviewed source disconnect failed after OFF proof (" ++ context ++
          ")") .safetyManager
      raiseIf cancelled
      pure false
    else finishDisconnect t context cancelled

/-- `_require_reviewed_source_identity`, for the manager's own driver and
binding. -/
def requireIdentity : Py Unit := do
  let s ← Coro.read
  if s.wiring.identityQualified then pure ()
  else
    Coro.raise (.raised .valueError
      "reviewed-source sealed runtime binding identity mismatch")

def disconnectReviewedSource (t : Nat) (context : String) : Py Bool := do
  requireIdentity
  announceAbort t .omitted
  let r ← Coro.attempt <| withCmdLock t do
    requireIdentity
    settling t do
      sync fun s => s.revokeReviewedSource.refreshOperatorSafetySnapshot
      note (.offRequested none)
      let (proof, cancelled) ← settledWait (.driver (.emergencyOff none))
      disconnectAfterProof t context proof cancelled
  -- A wait for the lock that was cancelled leaves the task a stop owner.
  Coro.update (State.onControl (Control.leaveStop t .disconnect))
  Coro.ofExcept r

/-- `begin_reviewed_source_connect`: the new generation token, which is the
current generation unless a source was active. -/
def beginReviewedSourceConnect (t : Nat) (context : String) : Py Nat := do
  requireIdentity
  Coro.update (State.onControl (Control.registerAbortIntent true))
  withCmdLock t do
    requireIdentity
    let s ← Coro.read
    sync fun s => s.revokeReviewedSource.refreshOperatorSafetySnapshot
    let revoked ← Coro.read
    if !revoked.safetyChildrenAuthoritative then
      Coro.raise (.raised .runtimeError
        "cannot grant reviewed-source generation without live safety children")
    else if s.control.activeSources ≠ ∅ then do
      fault t
        ("reviewed source connection changed while active (" ++ context ++ ")")
        .safetyManager
      let s ← Coro.read
      Coro.update fun s =>
        { s with link := { s.link with issued := s.link.issued + 1 } }
      pure s.link.issued
    else do
      let s ← Coro.read
      Coro.update State.issueGeneration
      pure s.link.issued

/-- `complete_reviewed_source_connect`, the commit of the driver's readback. -/
def completeConnectCut (s : State) : State × Option Exc :=
  let connected := s.driverAttr Driver.connected .none == .bool true
  let verified := connected &&
    s.driverAttr Driver.outputStateUnverified .none == .bool false
  let s := (s.setConnected connected).setOffEvidence
    (.fromGlobalResult s.reviewedSourceOffTier
      (if verified then .deviceReportedOff else .physicalStateUnknown))
  (if verified then s.keepSources .connectCompleted ∅ else s
    ).refreshOperatorSafetySnapshot

def completeReviewedSourceConnect (t : Nat) (generation : Option Nat) :
    Py SourceOffEvidence :=
  withCmdLock t do
    requireIdentity
    let s ← Coro.read
    if !s.safetyChildrenAuthoritative ∨ s.link.generation ≠ generation then
      pure s.unknownGlobalOffEvidence
    else do
      sync completeConnectCut
      let s ← Coro.read
      pure s.link.offEvidence

/-- `mark_reviewed_source_uncertain`; `none` is the generation `None`. -/
def markReviewedSourceUncertain (t : Nat) (generation : Option Nat)
    (context : String) : Py Unit := do
  requireIdentity
  let s ← Coro.read
  if s.link.generation ≠ generation then pure ()
  else do
    Coro.update (State.onControl (Control.registerAbortIntent true))
    withCmdLock t do
      requireIdentity
      let s ← Coro.read
      if s.link.generation ≠ generation then pure ()
      else do
        sync fun s =>
          s.revokeReviewedSource.refreshOperatorSafetySnapshot
        let s ← Coro.read
        if s.control.activeSources ≠ ∅ then
          fault t ("reviewed source connection uncertain (" ++ context ++ ")")
            .safetyManager
        else pure ()

def abandonReviewedSourceConnect (generation : Option Nat) : Py Unit := do
  requireIdentity
  let s ← Coro.read
  if s.link.generation ≠ generation then pure ()
  else do
    Coro.update (State.onControl (Control.registerAbortIntent true))
    sync fun s => s.revokeReviewedSource.refreshOperatorSafetySnapshot

/-- What refuses a live update before its values are looked at; otherwise the
runtime of the channel. -/
def updateRefusal (s : State) (channel : SmuChannel) :
    Except String ChannelRuntime :=
  match s.energizingMutationRefusal with
  | some reason => .error reason
  | none =>
  if !s.safetyChildrenAuthoritative then
    .error "Safety child authority is unavailable"
  else if s.control.state = .faultLatched then
    .error ("FAULT: " ++ s.fault.reason)
  else if channel ∉ s.control.activeSources then
    .error ("Channel " ++ channel.text ++ " not active")
  else
  match s.env.driver with
  | none => .error "Keithley not connected"
  | some driver =>
      match driver.runtimes channel with
      | some runtime =>
          if runtime.active then .ok runtime
          else
            .error ("Channel " ++ channel.text ++ " not active on instrument")
      | none =>
          .error ("Channel " ++ channel.text ++ " not active on instrument")

/-- The validation of one setpoint: a name, a unit and a limit. -/
def validateSetpoint (name unit label : String) (limit : PyFloat)
    (value : PyFloat) : Option String :=
  if !value.isFinite then
    some ("Non-finite " ++ name ++ " rejected: " ++ value.text)
  else if value.nonpos then some (name ++ " must be > 0")
  else if value.gt limit then
    some
      (label ++ "=" ++ value.text ++ unit ++ " exceeds limit " ++ limit.text ++
        unit)
  else none

/-- What refuses `update_target`; the checks of the value come before those of
the driver. -/
def targetRefusal (s : State) (channel : SmuChannel) (pTarget : PyFloat) :
    Option String :=
  match s.energizingMutationRefusal with
  | some reason => some reason
  | none =>
  if !s.safetyChildrenAuthoritative then
    some "Safety child authority is unavailable"
  else if s.control.state = .faultLatched then
    some ("FAULT: " ++ s.fault.reason)
  else if channel ∉ s.control.activeSources then
    some ("Channel " ++ channel.text ++ " not active")
  else
  match validateSetpoint "p_target" "W" "P" s.wiring.config.maxPowerW pTarget with
  | some reason => some reason
  | none =>
      match updateRefusal s channel with
      | .error reason => some reason
      | .ok _ => none

/-- `runtime.p_target` of a channel. -/
def runtimeTarget (s : State) (channel : SmuChannel) : Option PyFloat :=
  (s.env.driver.bind fun d => d.runtimes channel).map ChannelRuntime.pTarget

/-- Whether the authority of an update was lost during its write. -/
def updateOvertaken (generation : Nat) (s : State) : Bool :=
  s.control.abortGeneration != generation ||
    s.control.state == .faultLatched || !s.safetyChildrenAuthoritative

/-- `update_target`, when the driver raised. -/
def failedTargetUpdate (t : Nat) (channel : SmuChannel) (e : Exc)
    (cancelled : Bool) : Py Reply := do
  let reason :=
    "Power-target update outcome is uncertain on " ++ channel.text ++ ": " ++
      e.typeName
  let s ← Coro.read
  fault t reason .safetyTargetUpdate
  let offCancelled ←
    if s.control.state = .faultLatched then do
      let s ← Coro.read
      let (proved, offCancelled) ←
        settledOff t none s.control.latchedFaultAbortGeneration
      if proved then
        sync fun s =>
          (s.keepSources .reconciliation ∅).refreshOperatorSafetySnapshot
      else pure ()
      pure offCancelled
    else pure false
  raiseIf (cancelled || offCancelled)
  let s ← Coro.read
  pure
    { ok := false
      channel := some channel
      pTarget := runtimeTarget s channel
      uncertain := ["p_target"]
      error := some reason }

/-- `update_target`, when authority was lost during the write. -/
def overtakenTargetUpdate (t : Nat) (channel : SmuChannel)
    (fullGeneration : Nat) : Py Reply := do
  let s ← Coro.read
  let scope : ChannelArg :=
    if s.control.fullAbortGeneration ≠ fullGeneration then .omitted
    else .named channel
  let (off, cancelled) ← settled (emergencyOffLocked t scope)
  raiseIf cancelled
  let s ← Coro.read
  pure
    { ok := false
      channel := some channel
      pTarget := runtimeTarget s channel
      error := some
        (if positive off then
          "Safety authority was lost after a power-target update reached the source"
        else
          "Safety authority was lost and target-update OFF reconciliation was not confirmed") }

def updateTarget (t : Nat) (pTarget : PyFloat) (channel : ChannelArg) :
    Py Reply :=
  withCmdLock t do
    let channel ← Coro.ofExcept channel.normalize
    let before ← Coro.read
    match targetRefusal before channel pTarget with
    | some reason => pure { ok := false, error := some reason }
    | none => do
        let (result, cancelled) ←
          settledWait (.driver (.updateSourceTarget channel pTarget))
        match result with
        | .error e => failedTargetUpdate t channel e cancelled
        | .ok _ =>
            if cancelled then do
              fault t
                ("Power-target update completed after caller cancellation on " ++
                  channel.text) .safetyTargetUpdate
              Coro.raise .cancelled
            else do
              observeTerminalSafetyChildren
              let s ← Coro.read
              if updateOvertaken before.control.abortGeneration s then
                overtakenTargetUpdate t channel
                  before.control.fullAbortGeneration
              else
                pure
                  { ok := true
                    channel := some channel
                    pTarget := some pTarget }

/-- Which of the two compliance limits is written. -/
inductive LimitKind where
  | voltage | current
deriving DecidableEq

def LimitKind.key : LimitKind → String
  | .voltage => "v_comp"
  | .current => "i_comp"

def LimitKind.title : LimitKind → String
  | .voltage => "Voltage"
  | .current => "Current"

/-- Assignment to `runtime.v_comp` or `runtime.i_comp`. -/
def setRuntimeLimit (kind : LimitKind) (channel : SmuChannel)
    (value : PyFloat) (s : State) : State :=
  { s with env :=
      { s.env with driver := s.env.driver.map fun d =>
          { d with runtimes := fun c =>
              (d.runtimes c).map fun r =>
                if c = channel then
                  match kind with
                  | .voltage => { r with vComp := value }
                  | .current => { r with iComp := value }
                else r } } }

/-- One compliance limit of `update_limits`: the values applied so far, or the
reply that ends the command. -/
def writeLimit (t : Nat) (kind : LimitKind) (channel : SmuChannel)
    (generation : Nat) (applied : List (String × PyFloat)) (value : PyFloat) :
    Py (Except Reply (List (String × PyFloat))) := do
  let s ← Coro.read
  let after := applied ++ [(kind.key, value)]
  match s.env.driver.bind Driver.mock with
  | none => Coro.raise (.raised .other "driver has no attribute 'mock'")
  | some mock =>
  if mock.truthy then do
    Coro.update (setRuntimeLimit kind channel value)
    pure (.ok after)
  else do
    let (result, cancelled) ← settledWait
      (.driver (match kind with
        | .voltage => .updateSourceLimit channel (some value) none
        | .current => .updateSourceLimit channel none (some value)))
    match result with
    | .error e => do
        let reason :=
          kind.title ++ "-limit write outcome is uncertain on " ++
            channel.text ++ ": " ++ e.typeName
        fault t reason .safetyLimitUpdate
        raiseIf cancelled
        pure (.error
          { ok := false
            applied := applied
            uncertain := [kind.key]
            error := some reason })
    | .ok _ => do
        Coro.update (setRuntimeLimit kind channel value)
        if cancelled then do
          fault t
            (kind.title ++
              "-limit write completed after caller cancellation on " ++
              channel.text) .safetyLimitUpdate
          Coro.raise .cancelled
        else do
          observeTerminalSafetyChildren
          let s ← Coro.read
          if updateOvertaken generation s then
            pure (.error
              { ok := false
                applied := after
                error := some
                  "Safety authority was lost after a limit write reached hardware" })
          else pure (.ok after)

/-- One optional compliance limit of `update_limits`. -/
def writeOptionalLimit (t : Nat) (kind : LimitKind) (channel : SmuChannel)
    (generation : Nat) (applied : List (String × PyFloat)) :
    Option PyFloat → Py (Except Reply (List (String × PyFloat)))
  | none => pure (.ok applied)
  | some value => writeLimit t kind channel generation applied value

def updateLimits (t : Nat) (channel : ChannelArg)
    (vComp iComp : Option PyFloat) : Py Reply :=
  withCmdLock t do
    let channel ← Coro.ofExcept channel.normalize
    let s ← Coro.read
    let generation := s.control.abortGeneration
    match updateRefusal s channel with
    | .error reason => pure { ok := false, error := some reason }
    | .ok _ =>
    match (vComp.bind (validateSetpoint "v_comp" "V" "V"
          s.wiring.config.maxVoltageV)).orElse fun _ =>
        iComp.bind (validateSetpoint "i_comp" "A" "I"
          s.wiring.config.maxCurrentA) with
    | some reason => pure { ok := false, error := some reason }
    | none => do
        match ← writeOptionalLimit t .voltage channel generation [] vComp with
        | .error reply => pure reply
        | .ok applied =>
        match ← writeOptionalLimit t .current channel generation applied
            iComp with
        | .error reply => pure reply
        | .ok _ => do
            let s ← Coro.read
            let runtime := s.env.driver.bind fun d => d.runtimes channel
            pure
              { ok := true
                channel := some channel
                vComp := runtime.map ChannelRuntime.vComp
                iComp := runtime.map ChannelRuntime.iComp }

/-- What refuses `acknowledge_fault`. -/
def acknowledgeRefusal (s : State) (reason : String) : Option String :=
  if s.control.state ≠ .faultLatched then
    some "Нет активной аварии для подтверждения"
  else if s.wiring.config.requireReason && (strip reason).isEmpty then
    some "Укажите причину аварии"
  else if s.env.now - s.fault.time < s.wiring.config.cooldownBeforeRearm then
    some
      ("Ожидание: ещё " ++
        toString (s.wiring.config.cooldownBeforeRearm -
          (s.env.now - s.fault.time)) ++ "с до разрешения восстановления")
  else none

/-- The driver's own acknowledgement of a watchdog trip, where it has one. -/
def acknowledgeWatchdog : Py Bool := do
  let s ← Coro.read
  match s.env.driver.bind Driver.acknowledgeWdogTrip with
  | none => pure true
  | some call => do
      let answer : Outcome ←
        match call with
        | .immediate answer => pure answer
        | .awaitable =>
            Coro.attempt (awaiting (.driver .acknowledgeWdogTrip))
      match answer with
      | .ok value => pure value.truthy
      | .error .cancelled => Coro.raise .cancelled
      | .error (.raised _ _) => pure false

/-- `acknowledge_fault`, its transition. -/
def clearAcknowledged (t : Nat) (reason : String) (s : State) :
    State × Option Exc :=
  (State.note (.acknowledgeCleared t s.control.activeSources)
    { s with inputs := { s.inputs with persistenceFaultActive := false } }
    ).transition .manualRecovery (.faultAcknowledged reason)

def acknowledgeFault (t : Nat) (reason : String) : Py Reply :=
  withCmdLock t do
    let s ← Coro.read
    match acknowledgeRefusal s reason with
    | some error =>
        pure { ok := false, state := some s.control.state, error := some error }
    | none => do
        note (.acknowledgeAdmitted t)
        Coro.update fun s =>
          { s with fault :=
              { s.fault with recoveryReason := strip reason } }
        if ← acknowledgeWatchdog then do
          sync (clearAcknowledged t reason)
          publishKeithleyChannelStates
          let s ← Coro.read
          note (.acknowledgeReturned t s.control.state)
          pure { ok := true, state := some s.control.state }
        else do
          let s ← Coro.read
          pure
            { ok := false
              state := some s.control.state
              error := some
                "Watchdog trip evidence could not be acknowledged after verified OFF; fault remains latched. Retry emergency OFF, then acknowledge, or explicitly disconnect/reconnect the Keithley. With watchdog.mode=required and non-autonomous v3, explicitly select best_effort first (off only intentionally disables the TSP path)." }

/-! ## Persistence, predictor and blind guards -/

def setCooldownPredictorStatus (t : Nat) (available : Bool) (reason : String) :
    Py Unit :=
  withCmdLock t do
    sync fun s =>
      ({ s with inputs :=
          { s.inputs with
            cooldownPredictorAvailable := some available
            cooldownPredictorUnavailableReason :=
              if available then "" else reason } }
        ).refreshOperatorSafetySnapshot

def onPersistenceFailure (t : Nat) (reason : String) : Py Unit := do
  sync fun s =>
    ({ s with inputs := { s.inputs with persistenceFaultActive := true } }
      ).refreshOperatorSafetySnapshot
  fault t ("Persistence failure: " ++ reason) .persistence

def onFailedPollPersistenceFailure (t : Nat) (instrument reason : String) :
    Py Unit := do
  Coro.update fun s =>
    { s with inputs :=
        { s.inputs with
          failedPollPersistenceBlockers :=
            dictSet instrument reason s.inputs.failedPollPersistenceBlockers } }
  onPersistenceFailure t (instrument ++ ": " ++ reason)

def latchFault (t : Nat) (reason : String) (source : FaultSource) : Py Unit :=
  fault t reason source

/-- `_on_interlock_trip_owned(action="stop_source")`, holding `_cmd_lock`. -/
def softStopLocked (t : Nat) (name reason : String) : Py Bool := do
  let s ← Coro.read
  if s.env.driver.isNone then do
    -- Without a driver the local `ok` is never bound; reading it raises after
    -- the sources were dropped.
    Coro.update fun s =>
      (s.onControl fun c =>
        (c.dropStopped t {.smua, .smub}).leaveStop t .softInterlock
        ).retainConnection
    Coro.raise (.raised .unboundLocalError
      "cannot access local variable 'ok' where it is not associated with a value")
  else do
    note (.offRequested none)
    let (result, cancelled) ← settledWait (.driver (.emergencyOff none))
    match result with
    | .error _ => do
        fault t
          (reason ++
            " (emergency_off failed: interlock full OFF ended without a usable result)")
          .safetyManager
        pure cancelled
    | .ok value =>
        if value ≠ .off .deviceReportedOff then do
          fault t (reason ++ " (emergency_off could not confirm OFF)")
            .safetyManager
          pure cancelled
        else do
          dropAndMove t (.interlockStopSource name)
            [.faultLatched, .manualRecovery] fun s =>
              s.retainConnection.setOffEvidence
                (s.globalOffEvidenceForResult value)
          let (_, publishCancelled) ← settled publishKeithleyChannelStates
          pure (cancelled || publishCancelled)

def onInterlockTripOwned (t : Nat) (name channel : String) (value : PyFloat)
    (action : InterlockAction) : Py Unit := do
  let reason :=
    "Interlock '" ++ name ++ "' tripped: channel=" ++ channel ++ ", value=" ++
      value.text
  match action with
  | .emergencyOff => fault t reason .interlock
  | .stopSource => do
      Coro.update (State.onControl (Control.registerAbortIntent true))
      let cancelled ← withCmdLock t
        (settling t (softStopLocked t name reason))
      raiseIf cancelled
  | .warning | .other _ =>
      fault t
        ("Unknown interlock action '" ++ action.text ++ "': " ++ reason)
        .safetyManager

def onInterlockTrip (t : Nat) (name channel : String) (value : PyFloat)
    (action : InterlockAction) : Py Unit := do
  if action = .warning then pure ()
  else
    Coro.update fun s => { s with inputs :=
      { s.inputs with
        trippedControlInterlocks :=
          name :: s.inputs.trippedControlInterlocks.filter (· ≠ name) } }
  if action = .stopSource then announceAbort t .omitted else pure ()
  let r ←
    if action = .stopSource then
      settledOwner (onInterlockTripOwned t name channel value action)
    else settled (onInterlockTripOwned t name channel value action)
  deliver r

/-- The durable record of an advisory, once: whether it was made. -/
def logBlindGuard (recorded : State → State) : Py Bool := do
  let (log, cancelled) ← settledWait .faultLog
  raiseIf cancelled
  if log.isOk then do
    Coro.update recorded
    pure true
  else pure false

/-- The instrument itself reports the sensor unusable: an advisory. -/
def adviseBlindGuard (name channel : String) (reasons : List String)
    (value : PyFloat) : Py Bool := do
  let s ← Coro.read
  let previous := s.inputs.blindInterlockGuards.lookup channel
  let same := previous.any fun g =>
    decide (g.interlockName = name ∧ g.reasons = reasons)
  let recorded := same && previous.any BlindGuard.recorded
  let entry : Bool → State → State := fun r s => { s with inputs :=
    { s.inputs with
      blindInterlockGuards :=
        dictSet channel ⟨name, reasons, r, value⟩
          s.inputs.blindInterlockGuards } }
  Coro.update fun s =>
    let s := entry recorded { s with inputs :=
      { s.inputs with
        matureDeadInterlockChannels :=
          dictPop channel s.inputs.matureDeadInterlockChannels } }
    s
  if (s.inputs.matureDeadInterlockChannels.lookup channel).isSome ∨
      same = false then refresh
  else pure ()
  if recorded ∨ !s.wiring.faultLog then pure recorded
  else logBlindGuard (entry true)

/-- `on_interlock_dead_channel`: whether the episode is settled. -/
def onInterlockDeadChannel (t : Nat) (name channel : String)
    (reasons : List String) (value : PyFloat) : Py Bool := do
  if reasons ≠ [] then adviseBlindGuard name channel reasons value
  else do
    let s ← Coro.read
    Coro.update fun s => { s with inputs :=
      { s.inputs with
        blindInterlockGuards := dictPop channel s.inputs.blindInterlockGuards
        matureDeadInterlockChannels :=
          dictSet channel name s.inputs.matureDeadInterlockChannels } }
    if (s.inputs.blindInterlockGuards.lookup channel).isSome ∨
        s.inputs.matureDeadInterlockChannels.lookup channel ≠ some name then
      refresh
    else pure ()
    let s ← Coro.read
    if s.control.state = .faultLatched then pure true
    else if s.control.state ≠ .runPermitted ∧ s.control.state ≠ .running then
      pure false
    else do
      fault t
        ("Интерлок-канал " ++ channel ++ " ('" ++ name ++
          "'): показания устойчиво непригодны при активном источнике")
        .safetyManager
      pure true

/-- The fault of one accepted sample during an active lifecycle. -/
def sampleFault (s : State) (now : Int) (m : InputId × Sample) :
    Option String :=
  if now - m.2.observed > s.wiring.config.staleTimeout then
    some ("Устаревшие данные канала " ++ m.1.channel)
  else if s.hasInstrumentStatusFault m.1 then none
  else if !m.2.statusOk then
    some ("Channel " ++ m.1.channel ++ " status=" ++ m.2.status)
  else if !m.2.value.isFinite then some ("Channel " ++ m.1.channel ++ ": NaN/Inf")
  else none

def criticalInputFault (s : State) (now : Int) : Option String :=
  s.criticalInputRequirements.findSome? fun requirement =>
    if requirement.2.isEmpty && !s.wiring.mock then
      some ("No data for critical channel " ++ requirement.1)
    else requirement.2.findSome? (sampleFault s now)

/-- The fault of the heartbeat, or of a start that is stuck. -/
def heartbeatFault (s : State) (now : Int) : Option String :=
  match sortedChannels s.control.activeSources with
  | [] =>
      if s.control.state = .runPermitted ∧ 0 < s.inputs.runPermittedSince ∧
          now - s.inputs.runPermittedSince > s.wiring.config.heartbeatTimeout
      then
        some
          ("start_source() stuck: RUN_PERMITTED for >" ++
            toString s.wiring.config.heartbeatTimeout ++
            "s without source activation")
      else none
  | channels =>
      (channels.find? fun c => !s.hasFreshKeithleyData now c).map fun c =>
        "Keithley heartbeat timeout " ++ c.text ++ ": no data " ++
          toString s.wiring.config.heartbeatTimeout ++ "s"

/-- The inputs whose rate is limited: the key of the estimator and the channel
it is reported under. -/
def rateInputs (s : State) : List (String × String) :=
  match s.wiring.criticalInputBindings with
  | some bindings => bindings.map fun b => (b.2, b.1.channel)
  | none =>
      if s.wiring.mock then
        (s.env.rates.filter fun r =>
          s.wiring.config.criticalChannels.any fun p => p.accepts r.1).map
            fun r => (r.1, r.1)
      else []

def rateFault (s : State) : Option String :=
  (rateInputs s).findSome? fun input =>
    match (s.env.rates.lookup input.1).join with
    | none => none
    | some rate =>
        if rate.abs.gt s.wiring.config.maxDTDt then
          some
            ("Rate limit exceeded " ++ input.2 ++ ": " ++ rate.abs.text ++
              " K/min > " ++ s.wiring.config.maxDTDt.text)
        else none

/-- The watchdog of the driver: what `wdog_tripped` faults on. -/
def watchdogFault : Py (Option String) := do
  let s ← Coro.read
  match s.env.driver.bind Driver.wdogTripped with
  | none => pure none
  | some call => do
      let answer : Outcome ←
        match call with
        | .immediate (.ok _) => pure (.ok (.bool false))
        | .immediate (.error e) => pure (.error e)
        | .awaitable => Coro.attempt (awaiting (.driver .wdogTripped))
      match answer with
      | .ok value =>
          if value.truthy then
            pure (some
              "Keithley late-pet watchdog tripped — TSP issued both-output OFF when host polling resumed after the deadline")
          else pure none
      | .error .cancelled => Coro.raise .cancelled
      | .error (.raised _ message) =>
          pure (some
            ("Keithley watchdog state readback invalid/unavailable: " ++
              message))

/-- `await self._fault(reason)` where there is a reason, else the rest. -/
def faultOr (t : Nat) (reason : Option String) (rest : Py Unit) : Py Unit :=
  match reason with
  | some reason => fault t reason .safetyManager
  | none => rest

/-- `_run_checks` while a source is enabled: stale data, watchdog, heartbeat
and rate. -/
def activeChecks (t : Nat) (now : Int) : Py Unit := do
  let s ← Coro.read
  faultOr t (criticalInputFault s now) do
    if s.env.driver.isSome ∧ !s.wiring.mock then do
      let tripped ← watchdogFault
      faultOr t tripped do
        let s ← Coro.read
        faultOr t (heartbeatFault s now) do
          let s ← Coro.read
          faultOr t (rateFault s) (pure ())
    else faultOr t (rateFault s) (pure ())

def runChecks (t : Nat) : Py Unit := do
  refresh
  let s ← Coro.read
  let hazard ← Coro.ofExcept s.currentUnmanagedOutputHazard
  match hazard with
  | some (_, reason) =>
      if s.control.state ≠ .faultLatched then
        fault t ("Reviewed source unsafe-output observation: " ++ reason)
          .reviewedSourceOutputObservation
      else checkQualification t s
  | none => checkQualification t s
where
  /-- `_run_checks` from the qualification receipt on. -/
  checkQualification (t : Nat) (s : State) : Py Unit :=
    match s.energizingMutationRefusal with
    | some reason =>
        if s.control.state = .runPermitted ∨ s.control.state = .running then
          fault t reason .qualificationInterlock
        else checkWatchdogEvidence t s
    | none => checkWatchdogEvidence t s
  /-- `_run_checks` from the watchdog evidence on. -/
  checkWatchdogEvidence (t : Nat) (s : State) : Py Unit :=
    if s.env.driver.isSome ∧ !s.wiring.mock ∧
        s.driverAttr Driver.watchdogTripPending (.bool false) = .bool true ∧
        s.control.state ≠ .faultLatched then
      fault t
        "Keithley watchdog has unconsumed prior-trip evidence; outputs require verified OFF and explicit acknowledgment"
        .safetyManager
    else
      match s.control.state with
      | .manualRecovery =>
          if s.checkPreconditions.1 then
            sync (State.transition .ready .recoveryPreconditionsRestored)
          else pure ()
      | .safeOff =>
          if s.checkPreconditions.1 ∧ s.inputs.latest ≠ [] then
            sync (State.transition .ready .allPreconditionsSatisfied)
          else pure ()
      | .runPermitted | .running => activeChecks t s.env.now
      | .ready | .faultLatched => pure ()

/-- One turn of `_monitor_loop` after its sleep. -/
def monitorTurn (t : Nat) : Py Unit := do
  let before ← Coro.read
  runChecks t
  publishState
  let s ← Coro.read
  if s.fault.revision = before.fault.revision then
    publishKeithleyChannelStates
  else pure ()

end Py

end Safety
end CryoDaq
