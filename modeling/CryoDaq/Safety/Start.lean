import CryoDaq.Safety.Off

/-!
# Starting a source

`request_run`, from its first step to its receipt.  `_request_run_locked` runs
twice: once to collect the warnings that the operator has to be told, and once
to start the source.  Both passes begin with the same admission
(`startAuthority`), which may consume a latched fault.

**Exits.**  After the driver was touched there are many ways out: the caller is
cancelled, `start_source` fails, a fault or an abort lands meanwhile, the
publication fails, the published RUN is revoked.  Each has its own function.
-/

namespace CryoDaq
namespace Safety

open Async

/-- The arguments of `request_run`; `committer` says whether a
`warning_choice_committer` was given. -/
structure RunRequest where
  pTarget : PyFloat
  vComp : PyFloat
  iComp : PyFloat
  channel : ChannelArg
  committer : Bool

/-- What `request_run` samples at its first step. -/
structure Admission where
  generation : Nat
  fullGeneration : Nat
  journalLength : Nat

namespace Control

/-- The pending latch warning, where it belongs to another abort generation,
is dropped. -/
def dropStaleWarning (generation : Nat) (c : Control) : Control :=
  match c.pendingInterlockStartWarning with
  | some (pending, _) =>
      if pending = generation then c
      else { c with pendingInterlockStartWarning := none }
  | none => c

def latchWarning (generation : Nat) (c : Control) : Option OperatorWarning :=
  match c.pendingInterlockStartWarning with
  | some (pending, warning) =>
      if pending = generation then some warning else none
  | none => none

/-- The latch-consumption branch of `_request_run_locked`. -/
def consumeLatch (t generation : Nat) (recovered : Bool)
    (warning : OperatorWarning) (c : Control) : Control :=
  ({ c with
      pendingInterlockStartWarning := some (generation, warning)
      latchedFaultAbortGeneration := none
      faultSources := ∅
      journal :=
        .latchConsumed t c.faultSources recovered c.activeSources warning.code
          (c.abortGeneration == generation) :: c.journal
    }).transition .safeOff .startUnderLatch

def takeWarning (warning : Option OperatorWarning) (c : Control) : Control :=
  if warning.isSome then { c with pendingInterlockStartWarning := none } else c

def commitSource (channel : SmuChannel) (pTarget : PyFloat) (c : Control) :
    Control :=
  let c' := { c with activeSources := insert channel c.activeSources }
  if c.state = .running then c'
  else c'.transition .running (.sourceEnabled channel pTarget)

end Control

namespace State

def consumedLatchWarning (recovered : Bool) (s : State) : OperatorWarning :=
  if recovered then
    { code := .latchedPersistenceStart
      operatorText := "ЗАПИСЬ ДАННЫХ ОТКАЗАЛА: " ++ s.fault.reason
      consequence :=
        "Оператор намеренно продолжает запуск. Если диск всё ещё полон, следующая запись снова остановит источник, и это будет записано."
      reason := s.fault.reason }
  else
    { code := .latchedInterlockStart
      operatorText := "ИНТЕРЛОК БЫЛ ЗАЩЁЛКНУТ: " ++ s.fault.reason
      consequence :=
        "Источник был аварийно отключён; оператор намеренно продолжает запуск"
      reason := s.fault.reason }

/-- The latch-consumption branch of `_request_run_locked`. -/
def consumeLatch (t generation : Nat) (recovered : Bool) (s : State) :
    State × Option Exc :=
  ({ s with
      inputs :=
        if recovered then { s.inputs with persistenceFaultActive := false }
        else s.inputs
      fault :=
        { s.fault with
          recoveryReason := "Operator requested Start under a latched interlock" }
      control := s.control.consumeLatch t generation recovered
        (s.consumedLatchWarning recovered) }).refreshOperatorSafetySnapshot

def setpointRefusal (s : State) (request : RunRequest) : Option String :=
  if !(request.pTarget.isFinite && request.vComp.isFinite &&
      request.iComp.isFinite) then
    some
      ("Non-finite setpoint rejected: P=" ++ request.pTarget.text ++ " V=" ++
        request.vComp.text ++ " I=" ++ request.iComp.text)
  else if request.pTarget.gt s.wiring.config.maxPowerW then
    some
      ("P=" ++ request.pTarget.text ++ "W exceeds limit " ++
        s.wiring.config.maxPowerW.text ++ "W")
  else if request.vComp.gt s.wiring.config.maxVoltageV then
    some
      ("V=" ++ request.vComp.text ++ "V exceeds limit " ++
        s.wiring.config.maxVoltageV.text ++ "V")
  else if request.iComp.gt s.wiring.config.maxCurrentA then
    some
      ("I=" ++ request.iComp.text ++ "A exceeds limit " ++
        s.wiring.config.maxCurrentA.text ++ "A")
  else none

/-- What refuses a Start that holds the lock with the latch behind it. -/
def startRefusal (s : State) (request : RunRequest) (channel : SmuChannel) :
    Option String :=
  if s.control.state ≠ .safeOff ∧ s.control.state ≠ .ready ∧
      s.control.state ≠ .running then
    some ("Start not allowed from " ++ s.control.state.value)
  else if channel ∈ s.control.activeSources then
    some ("Channel " ++ channel.text ++ " already active")
  else
  match s.preconditionRefusal with
  | some reason => some reason
  | none => s.setpointRefusal request

def startWarnings (s : State) (warning : Option OperatorWarning) :
    List OperatorWarning :=
  warning.toList ++ s.cooldownOperatorWarnings

/-- The warning of a re-arm pass that raised. -/
def rearmWarning (s : State) (e : Exc) : OperatorWarning :=
  let label :=
    if s.inputs.trippedControlInterlocks.isEmpty then
      "имена ранее сработавших управляющих интерлоков недоступны"
    else ", ".intercalate (s.inputs.trippedControlInterlocks.mergeSort (· ≤ ·))
  { code := .interlockRearmUnconfirmed
    operatorText :=
      "ПЕРЕВЗВОД ИНТЕРЛОКОВ НЕ ПОДТВЕРЖДЁН; МОГУТ БЫТЬ СЛЕПЫ: " ++ label
    consequence :=
      "Пуск продолжен по решению оператора; названные интерлоки могут не оценивать показания этого запуска"
    reason :=
      "hook=" ++ e.typeName ++ "; unconfirmed_interlocks=" ++ label }

/-- The last step before the driver: the evidence is revoked and the FSM
permits RUN. -/
def permitRun (channel : SmuChannel) (pTarget : PyFloat) (s : State) :
    State × Option Exc :=
  let s := if s.wiring.mock then s.setConnected true else s
  andThen
    (s.setOffEvidence s.unknownGlobalOffEvidence).refreshOperatorSafetySnapshot
    fun s =>
      if s.control.state = .running then (s, none)
      else
        ({ s with inputs := { s.inputs with runPermittedSince := s.env.now } }
          ).transition .runPermitted (.startRequested channel pTarget)

/-- The bookkeeping of an aborted start whose OFF was confirmed. -/
def revertStart (channel : SmuChannel) (full : Bool) (s : State) :
    State × Option Exc :=
  let keep := if full then ∅ else s.control.activeSources
  if keep = ∅ then
    s.keepAndMove keep .safeOff (.startAbortedBeforeCommit channel)
  else s.keepAndMove keep .running (.startAbortedSourcesRemain channel)

def commitSource (channel : SmuChannel) (pTarget : PyFloat) (s : State) :
    State × Option Exc :=
  (s.onControl (Control.commitSource channel pTarget)
    ).refreshOperatorSafetySnapshot

/-- The bookkeeping of a revoked start that keeps only `keep`. -/
def settleRevokedCut (channel : SmuChannel) (keep : Finset SmuChannel)
    (s : State) : State × Option Exc :=
  if s.control.state = .faultLatched then
    (s.keepSources .reconciliation keep).refreshOperatorSafetySnapshot
  else if keep = ∅ then
    s.keepAndMove keep .safeOff (.startRevokedSettledOff channel)
  else if s.control.state = .running then
    (s.keepSources .reconciliation keep).refreshOperatorSafetySnapshot
  else s.keepAndMove keep .running (.startRevokedSourcesRemain channel)

end State

namespace Py

/-- The receipt of a Start that is refused, at the moment it is made. -/
def refuse (channel : SmuChannel) (error : String) : Py Reply := do
  let s ← Coro.read
  pure
    { ok := false
      state := some s.control.state
      channel := some channel
      error := some error }

/-- The receipt of a Start overtaken by an abort intent. -/
def refuseOvertaken (channel : SmuChannel) : Py Reply := do
  let s ← Coro.read
  pure
    { ok := false
      state := some s.control.state
      channel := some channel
      activeChannels := some s.control.activeSources
      error := some "Safety authority changed before source start" }

/-- `persistence_recovered`, asked; without the hook, or with one that raises,
persistence has not recovered. -/
def askPersistenceRecovered : Py Bool := do
  let s ← Coro.read
  let answer : Outcome ←
    match s.env.persistenceRecovered with
    | none => pure (.ok (.bool false))
    | some (.immediate answer) => pure answer
    | some .awaitable => Coro.attempt (awaiting .persistenceProbe)
  match answer with
  | .ok value => pure value.truthy
  | .error .cancelled => Coro.raise .cancelled
  | .error (.raised _ _) => pure false

/-- Whether a latch is owed to a persistence failure alone that has recovered
since. -/
def persistenceRecovered (t : Nat) : Py Bool := do
  let s ← Coro.read
  if s.control.faultSources = {.persistence} then do
    note (.probeOpened t)
    askPersistenceRecovered
  else pure false

/-- The latch at a Start: consumed, where its only origin is an interlock or a
persistence that has recovered. -/
def passLatch (t : Nat) (admission : Admission) (channel : SmuChannel)
    (warning : Option OperatorWarning) :
    Py (Except Reply (Option OperatorWarning)) := do
  let s ← Coro.read
  if s.control.state ≠ .faultLatched then pure (.ok warning)
  else do
    let recovered ← persistenceRecovered t
    let s ← Coro.read
    if s.control.faultSources ≠ {.interlock} ∧ recovered = false then do
      let reply ← refuse channel ("FAULT: " ++ s.fault.reason)
      pure (.error reply)
    else do
      sync (State.consumeLatch t admission.generation recovered)
      pure (.ok (some (s.consumedLatchWarning recovered)))

/-- The first half of `_request_run_locked`, the same in both passes. -/
def startAuthority (t : Nat) (request : RunRequest) (admission : Admission) :
    Py (Except Reply (SmuChannel × Option OperatorWarning)) := do
  let channel ← Coro.ofExcept request.channel.normalize
  let s ← Coro.read
  if s.control.abortGeneration ≠ admission.generation then do
    let reply ← refuseOvertaken channel
    pure (.error reply)
  else do
    Coro.update fun s =>
      (s.onControl (Control.dropStaleWarning admission.generation)
        ).expireStaleOffEvidence
    let warning := s.control.latchWarning admission.generation
    match ← passLatch t admission channel warning with
    | .error reply => pure (.error reply)
    | .ok warning => pure (.ok (channel, warning))

/-- `_request_run_locked(_preflight_only=True)`: the warnings, or a refusal. -/
def preflightRun (t : Nat) (request : RunRequest) (admission : Admission) :
    Py (Except Reply (List OperatorWarning)) :=
  withCmdLock t do
    match ← startAuthority t request admission with
    | .error reply => pure (.error reply)
    | .ok (channel, warning) => do
        let s ← Coro.read
        match s.startRefusal request channel with
        | some reason => do
            let reply ← refuse channel reason
            pure (.error reply)
        | none => pure (.ok (s.startWarnings warning))

/-- `warning_choice_committer`, asked. -/
def chooseWarnings (request : RunRequest) (warnings : List OperatorWarning) :
    Py (Option WarningReceipt) := do
  if warnings.isEmpty then pure none
  else if !request.committer then
    pure (some (.unconfirmed .persistenceUnavailable))
  else do
    match ← Coro.attempt (awaiting .warningChoice) with
    | .ok (.receipt committed) => pure (some (.answered committed))
    | .ok _ => pure (some (.unconfirmed .persistenceReceiptInvalid))
    | .error .cancelled => Coro.raise .cancelled
    | .error (.raised _ _) => pure (some (.unconfirmed .persistenceFailed))

/-! ## Before the source is touched -/

/-- The re-arm of the control interlocks. -/
def rearmInterlocks (warnings : List OperatorWarning) :
    Py (List OperatorWarning) := do
  let s ← Coro.read
  match s.env.interlockRearm with
  | none => pure warnings
  | some (.ok _) => do
      Coro.update fun s => { s with inputs :=
        { s.inputs with trippedControlInterlocks := [] } }
      pure warnings
  | some (.error .cancelled) => Coro.raise .cancelled
  | some (.error e) => pure (warnings ++ [s.rearmWarning e])

/-- The target-scoped OFF proof was obtained; what an authority lost meanwhile
still asks for. -/
def recheckAfterTargetProof (t : Nat) (admission : Admission)
    (channel : SmuChannel) : Py (Option Reply) := do
  observeTerminalSafetyChildren
  let s ← Coro.read
  if s.control.abortGeneration = admission.generation ∧
      s.control.state ≠ .faultLatched ∧ s.safetyChildrenAuthoritative then
    pure none
  else do
    if s.control.state = .faultLatched ∨
        admission.generation < s.control.fullAbortGeneration then do
      let (proved, cancelled) ← settledOff t none none
      if proved then
        sync fun s =>
          (s.keepSources .targetOffProof ∅).refreshOperatorSafetySnapshot
      else
        fault t
          ("Safety authority changed during target OFF proof for " ++
            channel.text) .safetyManager
      raiseIf cancelled
    else pure ()
    let s ← Coro.read
    pure (some
      { ok := false
        state := some s.control.state
        channel := some channel
        appliedOff := some channel
        error := some "Safety authority changed before source start" })

/-- Before a second channel is added: a fresh OFF proof of that channel. -/
def proveTargetOff (t : Nat) (admission : Admission) (channel : SmuChannel) :
    Py (Option Reply) := do
  let s ← Coro.read
  let error :=
    "Target " ++ channel.text ++ " OFF state is UNVERIFIED before RUN"
  if s.wiring.mock ∨ s.control.activeSources = ∅ then pure none
  else if s.env.driver.isNone then
    Coro.raise (.raised .assertionError "")
  else if !s.wiring.identityQualified ∨ s.link.generation.isNone ∨
      !s.link.connected then do
    let reply ← refuse channel error
    pure (some reply)
  else do
    note (.offRequested (some channel))
    let (result, cancelled) ←
      settledWait (.driver (.emergencyOff (some channel)))
    if cancelled ∨ result ≠ .ok (.off .deviceReportedOff) then do
      fault t error .safetyManager
      raiseIf cancelled
      let reply ← refuse channel error
      pure (some reply)
    else recheckAfterTargetProof t admission channel

/-! ## After the source was touched -/

/-- The caller was cancelled during `start_source`. -/
def cancelledStart (t : Nat) (channel : SmuChannel) : Py Reply := do
  Coro.update (State.onControl (Control.registerAbortIntent true))
  let (off, _) ← settled (emergencyOffLocked t .omitted)
  match off with
  | .ok _ => pure ()
  | .error _ => do
      let _ ← settled (fault t
        ("cancelled start on " ++ channel.text ++ " could not settle full OFF")
        .safetyManager)
      pure ()
  Coro.raise .cancelled

/-- The publication of a committed source failed or its caller was cancelled:
there is no receipt, so there must be no source. -/
def unacknowledgedRun (t : Nat) (channel : SmuChannel)
    (publish : Except Exc Unit) (publishCancelled : Bool) : Py Reply := do
  Coro.update (State.onControl (Control.registerAbortIntent true))
  let (off, offCancelled) ← settled (emergencyOffLocked t .omitted)
  let faultCancelled ←
    match off with
    | .ok _ => pure false
    | .error _ => do
        let (_, cancelled) ← settled (fault t
          ("unacknowledged RUN on " ++ channel.text ++
            " could not settle full OFF") .safetyManager)
        pure cancelled
  raiseIf (publishCancelled || offCancelled || faultCancelled)
  match publish with
  | .error e => Coro.raise e
  | .ok _ => Coro.raise (.raised .assertionError "")

/-- The fault of a revoked Start, as a task of its own. -/
def revocationFault (t : Nat) (reason : String) : Py Unit := do
  let s ← Coro.read
  if s.control.state = .faultLatched then note (.revocationJoined t)
  else pure ()
  fault t reason .runPostPublicationReconciliation

/-- `_settle_post_publication_run_revocation`, up to its OFF: whether OFF was
confirmed, what is kept, and whether the caller was cancelled. -/
def revokedOff (t : Nat) (channel : SmuChannel)
    (revocation : RunAuthorityRevocation) :
    Py (Bool × Finset SmuChannel × Bool) := do
  let s ← Coro.read
  if revocation.faultRequired ∧ s.control.state ≠ .faultLatched then do
    let (_, cancelled) ← settled (revocationFault t revocation.reason)
    let s ← Coro.read
    pure
      (decide (s.control.activeSources = ∅) && s.link.offEvidence.verifiedOff,
        s.control.activeSources, cancelled)
  else do
    let (proved, cancelled) ←
      settledOff t (if revocation.fullShutdown then none else some channel) none
    let s ← Coro.read
    if proved then
      pure (true,
        if revocation.fullShutdown then ∅
          else s.control.activeSources \ {channel},
        cancelled)
    else if s.control.state ≠ .faultLatched then do
      let (_, faultCancelled) ← settled (fault t
        (revocation.reason ++ "; rollback could not confirm OFF")
        .runPostPublicationReconciliation)
      let s ← Coro.read
      pure (false, s.control.activeSources, cancelled || faultCancelled)
    else pure (false, s.control.activeSources, cancelled)

/-- `_settle_post_publication_run_revocation`. -/
def settleRevocation (t : Nat) (channel : SmuChannel)
    (revocation : RunAuthorityRevocation) : Py Reply := do
  let (confirmed, keep, cancelled) ← revokedOff t channel revocation
  sync (State.settleRevokedCut channel keep)
  let (_, publishCancelled) ← settled publishKeithleyChannelStates
  raiseIf (cancelled || publishCancelled)
  let s ← Coro.read
  pure
    { ok := false
      state := some s.control.state
      channel := some channel
      activeChannels := some s.control.activeSources
      outputOffConfirmed := some confirmed
      error := some revocation.reason }

def confirmRun (t : Nat) (admission : Admission) (channel : SmuChannel)
    (warnings : List OperatorWarning) (receipt : Option WarningReceipt) :
    Py Reply := do
  let s ← Coro.read
  note (.runConfirmed
    { task := t
      channel := channel
      warnings := warnings
      receipt := receipt
      admittedAt := admission.journalLength
      admittedGeneration := admission.generation
      abortGeneration := s.control.abortGeneration
      state := s.control.state
      activeSources := s.control.activeSources
      childrenLive := s.childrenLive
      neverStartedSimulator := s.neverStartedSimulator
      driverCut := s.exactDriverActiveSourceCut })
  pure
    { ok := true
      state := some s.control.state
      channel := some channel
      activeChannels := some s.control.activeSources
      operatorWarnings := warnings
      operatorWarningReceipt := receipt }

/-- The source is on: track it, publish it and check the cut once more. -/
def commitStart (t : Nat) (request : RunRequest) (admission : Admission)
    (channel : SmuChannel) (warnings : List OperatorWarning)
    (receipt : Option WarningReceipt) : Py Reply := do
  let s ← Coro.read
  let expected := insert channel s.control.activeSources
  sync (State.commitSource channel request.pTarget)
  let (publish, cancelled) ← settled publishKeithleyChannelStates
  if cancelled ∨ !publish.isOk then
    unacknowledgedRun t channel publish cancelled
  else do
    observeTerminalSafetyChildren
    let s ← Coro.read
    match s.postPublicationRunRevocation channel expected admission.generation
        admission.fullGeneration with
    | .error e => do
        note (.inspectionRaised t)
        Coro.raise e
    | .ok (some revocation) => settleRevocation t channel revocation
    | .ok none => confirmRun t admission channel warnings receipt

/-- `start_source` failed. -/
def failedStart (t : Nat) (channel : SmuChannel) (e : Exc) : Py Reply := do
  fault t
    ("Source start failed on " ++ channel.text ++ ": " ++ e.text)
    .safetyManager
  refuse channel e.text

/-- A fault was latched while `start_source` ran. -/
def latchedStart (t : Nat) (channel : SmuChannel) : Py Reply := do
  let (_, cancelled) ← settledOff t none none
  raiseIf cancelled
  let s ← Coro.read
  refuse channel ("Fault during start: " ++ s.fault.reason)

/-- An abort intent was registered while `start_source` ran. -/
def abortedStart (t : Nat) (admission : Admission) (channel : SmuChannel) :
    Py Reply := do
  let s ← Coro.read
  let full := decide (admission.generation < s.control.fullAbortGeneration)
  let (proved, cancelled) ←
    settledOff t (if full then none else some channel) none
  let s ← Coro.read
  if !proved then
    fault t
      ("request_run(" ++ channel.text ++ ") abort could not confirm OFF")
      .safetyManager
  else if s.control.state ≠ .faultLatched then do
    sync (State.revertStart channel full)
    publishKeithleyChannelStates
  else pure ()
  raiseIf cancelled
  refuse channel "Interlock trip during start — source not activated"

/-- The child authority is observed once more after `start_source`. -/
def observeAuthorityAfterStart (admission : Admission) : Py Unit := do
  let s ← Coro.read
  if s.safetyChildrenAuthoritative then pure ()
  else do
    observeTerminalSafetyChildren
    let s ← Coro.read
    if s.control.abortGeneration = admission.generation then
      Coro.update (State.onControl (Control.registerAbortIntent true))
    else pure ()

/-- `start_source` returned. -/
def afterStart (t : Nat) (request : RunRequest) (admission : Admission)
    (channel : SmuChannel) (warnings : List OperatorWarning)
    (receipt : Option WarningReceipt) : Py Reply := do
  observeAuthorityAfterStart admission
  let s ← Coro.read
  if s.control.state = .faultLatched then latchedStart t channel
  else if s.control.abortGeneration ≠ admission.generation then
    abortedStart t admission channel
  else commitStart t request admission channel warnings receipt

/-- From the permission to RUN to the end of `_request_run_locked`. -/
def energize (t : Nat) (request : RunRequest) (admission : Admission)
    (channel : SmuChannel) (warnings : List OperatorWarning)
    (receipt : Option WarningReceipt) : Py Reply := do
  sync (State.permitRun channel request.pTarget)
  let s ← Coro.read
  if s.env.driver.isNone then
    if s.wiring.config.requireKeithleyForRun ∧ !s.wiring.mock then do
      sync (State.transition .safeOff .keithleyNotConnected)
      refuse channel "Keithley not connected"
    else commitStart t request admission channel warnings receipt
  else do
    let (result, cancelled) ← settledWait
      (.driver (.startSource channel request.pTarget request.vComp
        request.iComp))
    let s ← Coro.read
    note (.startSettled t channel (!result.isOk) s.control.state)
    if cancelled then cancelledStart t channel
    else
      match result with
      | .error e => failedStart t channel e
      | .ok _ =>
          afterStart t request admission channel warnings receipt

/-- The second pass after the latch. -/
def startChannel (t : Nat) (request : RunRequest) (admission : Admission)
    (channel : SmuChannel) (warning : Option OperatorWarning)
    (expected : List OperatorWarning) (receipt : Option WarningReceipt) :
    Py Reply := do
  let s ← Coro.read
  match s.startRefusal request channel with
  | some reason => refuse channel reason
  | none => do
      let warnings := s.startWarnings warning
      let receipt :=
        if warnings ≠ expected then
          some (.unconfirmed .warningChangedDuringPersistence)
        else receipt
      let warnings ← rearmInterlocks warnings
      match ← proveTargetOff t admission channel with
      | some reply => pure reply
      | none => energize t request admission channel warnings receipt

/-- Whether an outcome is a positive receipt. -/
def positive : Except Exc Reply → Bool
  | .ok reply => reply.ok
  | .error _ => false

/-- `_request_run_locked`, the second pass. -/
def commitRun (t : Nat) (request : RunRequest) (admission : Admission)
    (expected : List OperatorWarning) (receipt : Option WarningReceipt) :
    Py Reply :=
  withCmdLock t do
    match ← startAuthority t request admission with
    | .error reply => pure reply
    | .ok (channel, warning) => do
        Coro.update (State.onControl (Control.takeWarning warning))
        let r ← Coro.attempt
          (startChannel t request admission channel warning expected receipt)
        if warning.isSome ∧ !positive r then note (.startPassRefused t)
        else pure ()
        Coro.ofExcept r

/-- `request_run`, with its turn at `_run_request_lock`. -/
def admittedRun (t : Nat) (request : RunRequest) (admission : Admission) :
    Py Reply := do
  match ← preflightRun t request admission with
  | .error reply => pure reply
  | .ok warnings => do
      let receipt ← chooseWarnings request warnings
      let s ← Coro.read
      if s.control.abortGeneration ≠ admission.generation then do
        let channel ← Coro.ofExcept request.channel.normalize
        refuseOvertaken channel
      else commitRun t request admission warnings receipt

/-- The exit of a Start without a positive receipt, noted. -/
def noteExit (t : Nat) (request : RunRequest) (admitted turn : State)
    (r : Except Exc Reply) : Py Unit := do
  match request.channel.normalize, positive r with
  | .ok channel, false => do
      let s ← Coro.read
      note (.runRefused
        { task := t
          channel := channel
          admittedAt := admitted.control.journal.length
          activeAtAdmission := admitted.control.activeSources
          activeAtTurn := turn.control.activeSources
          state := s.control.state
          activeSources := s.control.activeSources })
  | _, _ => pure ()

def requestRun (t : Nat) (request : RunRequest) : Py Reply := do
  let admitted ← Coro.read
  let admission : Admission :=
    { generation := admitted.control.abortGeneration
      fullGeneration := admitted.control.fullAbortGeneration
      journalLength := admitted.control.journal.length }
  let leave : Exc → Py Unit := fun e => do
    let s ← Coro.read
    noteExit t request admitted s (.error e)
  withRunRequestLock t leave do
    let turn ← Coro.read
    let r ← Coro.attempt (admittedRun t request admission)
    noteExit t request admitted turn r
    Coro.ofExcept r

end Py

end Safety
end CryoDaq
