import CryoDaq.Safety.State

/-!
# Authority, readiness and RUN preconditions

The synchronous functions that only judge: which children are live, what the
OFF evidence is worth, whether the RUN preconditions hold, and the operator
snapshot that `_refresh_operator_safety_snapshot` replaces after every change.

Readiness and admission are two independently written conjunctions over the
same facts; both are kept in the order of the source.
-/

namespace CryoDaq
namespace Safety

/-! ## Children and evidence -/

/-- `task.done()` for a safety child. -/
def Lifecycle.childDone (l : Lifecycle) (task : Nat) : Bool :=
  ((l.children[task]?).bind ChildTask.outcome).isSome

def Lifecycle.child (l : Lifecycle) : ChildRole → Option Nat
  | .collect => l.collectTask
  | .monitor => l.monitorTask

namespace State

/-- Both owned children exist, are distinct and have not ended. -/
def childrenLive (s : State) : Bool :=
  match s.lifecycle.collectTask, s.lifecycle.monitorTask with
  | some collect, some monitor =>
      collect != monitor &&
        !s.lifecycle.childDone collect && !s.lifecycle.childDone monitor
  | _, _ => false

/-- A simulator that was never started, the one manager without children that
is nevertheless authoritative. -/
def neverStartedSimulator (s : State) : Bool :=
  s.wiring.mock && s.lifecycle.childGeneration == 0 &&
    s.lifecycle.stoppingChildGeneration.isNone &&
    s.lifecycle.failedChildRole.isNone

def safetyChildrenAuthoritative (s : State) : Bool :=
  s.neverStartedSimulator ||
    (decide (0 < s.lifecycle.childGeneration) &&
      s.lifecycle.stoppingChildGeneration != some s.lifecycle.childGeneration &&
      s.lifecycle.failedChildRole.isNone &&
      s.lifecycle.safetyMonitorActive &&
      s.childrenLive)

/-- `getattr(driver, attribute, default)`. -/
def driverAttr (s : State) (read : Driver → Option PyVal) (default : PyVal) :
    PyVal :=
  (s.env.driver.bind read).getD default

def reviewedSourceOffTier (s : State) : SourceOffTier :=
  if s.wiring.mock || s.env.driver.any Driver.verifiedOffSource then
    .verifiedOff
  else .commandOnly

def unknownGlobalOffEvidence (s : State) : SourceOffEvidence :=
  .fromGlobalResult s.reviewedSourceOffTier .physicalStateUnknown

def globalOffEvidenceForResult (s : State) (result : PyVal) :
    SourceOffEvidence :=
  .fromGlobalResult s.reviewedSourceOffTier
    (match result with
      | .off outcome => outcome
      | _ => .physicalStateUnknown)

/-- Assignment to `_reviewed_source_off_evidence`. -/
def setOffEvidence (e : SourceOffEvidence) (s : State) : State :=
  { s with link :=
      { s.link with offEvidence := e, offEvidenceObserved := s.env.now } }

/-- Assignment to `_reviewed_source_connected`. -/
def setConnected (b : Bool) (s : State) : State :=
  { s with link := { s.link with connected := b } }

/-- The revocation shared by every loss of the connection generation. -/
def revokeReviewedSource (s : State) : State :=
  ({ s with link := { s.link with generation := none, connected := false } }
    ).setOffEvidence s.unknownGlobalOffEvidence

def hasCurrentReviewedConnectionGeneration (s : State) : Bool :=
  if s.wiring.mock then s.safetyChildrenAuthoritative
  else
    s.safetyChildrenAuthoritative && s.wiring.identityQualified &&
      s.link.generation.isSome && s.link.connected &&
      s.env.driver.isSome &&
      s.driverAttr Driver.connected .none == .bool true

def expireStaleOffEvidence (s : State) : State :=
  if !s.link.offEvidence.verifiedOff then s
  else if s.env.now - s.link.offEvidenceObserved ≤ s.wiring.config.staleTimeout
  then s
  else s.setOffEvidence s.unknownGlobalOffEvidence

def criticalInputRequirements (s : State) :
    List (String × List (InputId × Sample)) :=
  match s.wiring.criticalInputBindings with
  | some (b :: bs) =>
      (b :: bs).map fun p =>
        (p.1.channel,
          match s.inputs.latest.lookup p.1 with
          | some sample => [(p.1, sample)]
          | none => [])
  | some [] => s.wiring.config.criticalChannels.map fun p => (p.pattern, [])
  | none =>
      if !s.wiring.mock then
        s.wiring.config.criticalChannels.map fun p => (p.pattern, [])
      else
        s.wiring.config.criticalChannels.map fun p =>
          (p.pattern, s.inputs.latest.filter fun m => p.accepts m.1.channel)

/-- `identity in self._instrument_status_faults`. -/
def hasInstrumentStatusFault (s : State) (id : InputId) : Bool :=
  (s.inputs.instrumentStatusFaults.lookup id).isSome

/-- The fact and blocker of one accepted sample of a critical input. -/
def sampleSnapshotProblem (s : State) (now : Int) (m : InputId × Sample) :
    Option (PlantHealthFact × SafetyBlocker) :=
  if now - m.2.observed > s.wiring.config.staleTimeout then
    some
      (⟨"critical_inputs", "Critical inputs", .stale, "critical_input_stale"⟩,
        ⟨"critical_input_stale", .stale, "A required critical input is stale",
          "Restore fresh critical-channel readings"⟩)
  else if s.hasInstrumentStatusFault m.1 then none
  else if !m.2.statusOk || !m.2.value.isFinite then
    some
      (⟨"critical_inputs", "Critical inputs", .fault, "critical_input_invalid"⟩,
        ⟨"critical_input_invalid", .fault,
          "A required critical input is invalid",
          "Restore valid critical-channel readings"⟩)
  else none

def criticalInputSnapshotFact (s : State) (now : Int) :
    PlantHealthFact × Option SafetyBlocker :=
  let problem := s.criticalInputRequirements.findSome? fun requirement =>
    if requirement.2.isEmpty && !s.wiring.mock then
      some
        (⟨"critical_inputs", "Critical inputs", .disconnected,
            "critical_input_missing"⟩,
          ⟨"critical_input_missing", .disconnected,
            "A required critical input is unavailable",
            "Restore a current valid critical-channel reading"⟩)
    else requirement.2.findSome? (s.sampleSnapshotProblem now)
  match problem with
  | some (fact, blocker) => (fact, some blocker)
  | none =>
      (⟨"critical_inputs", "Critical inputs", .ok, "critical_inputs_current"⟩,
        none)

/-! ## The operator snapshot -/

/-- `verified_off` of the snapshot. -/
def snapshotVerifiedOff (s : State) : Bool :=
  s.safetyChildrenAuthoritative && s.link.connected &&
    s.link.offEvidence.verifiedOff &&
    decide (s.control.activeSources = ∅) &&
    decide (s.control.state ≠ .runPermitted) &&
    decide (s.control.state ≠ .running)

def childrenSection (s : State) : List PlantHealthFact × List SafetyBlocker :=
  if s.safetyChildrenAuthoritative then
    ([⟨"safety_monitor", "Safety monitor and collector", .ok,
        "safety_children_active"⟩], [])
  else
    let role := (s.lifecycle.failedChildRole.map ChildRole.text).getD "monitor"
    let reason :=
      s.lifecycle.failedChildReason.getD "safety_monitor_inactive"
    let displayName :=
      if role == "collect" then "Safety reading collector"
      else "Safety monitor"
    ([⟨"safety_" ++ role, displayName, .disconnected, reason⟩],
      [⟨reason, .disconnected,
        "The " ++ displayName.toLower ++ " is not active",
        "Restart the SafetyManager and verify both child tasks remain live"⟩])

def reviewedSourceSection (s : State) :
    List PlantHealthFact × List SafetyBlocker :=
  if !s.link.connected then
    ([⟨"reviewed_source", "Reviewed source", .disconnected,
        "reviewed_source_disconnected"⟩],
      [⟨"reviewed_source_disconnected", .disconnected,
        "The reviewed source is disconnected or unqualified",
        "Connect it through reviewed wiring and submit current evidence"⟩])
  else if !s.snapshotVerifiedOff then
    let state : PresentationState :=
      if s.control.activeSources = ∅ then .caution else .warning
    ([⟨"reviewed_source", "Reviewed source", state,
        "reviewed_source_off_unverified"⟩],
      [⟨"reviewed_source_off_unverified", state,
        "The reviewed source lacks current verified-OFF evidence",
        "Obtain exact final-element OFF readback for this connection"⟩])
  else
    ([⟨"reviewed_source", "Reviewed source", .ok,
        "reviewed_source_verified_off"⟩], [])

def criticalInputSection (s : State) (now : Int) :
    List PlantHealthFact × List SafetyBlocker :=
  ([(s.criticalInputSnapshotFact now).1],
    (s.criticalInputSnapshotFact now).2.toList)

/-- The text of the dead interlock channels, where there are some. -/
def deadChannelsText (s : State) : Option String :=
  let dead := s.inputs.matureDeadInterlockChannels
  if dead.isEmpty then none
  else
    some ("Protected interlock channels are persistently unusable: " ++
      ", ".intercalate ((dead.map Prod.fst).mergeSort (· ≤ ·)))

/-- The text of the blind interlock guards, where there are some. -/
def blindGuardsText (s : State) : Option String :=
  let blind := s.inputs.blindInterlockGuards
  if blind.isEmpty then none
  else
    some ("Слепые защиты: " ++ "; ".intercalate
      ((blind.mergeSort fun g h => g.1 ≤ h.1).map fun g =>
        g.1 ++ " (" ++ g.2.interlockName ++ ": " ++
          ", ".intercalate g.2.reasons ++ ")"))

/-- The text of the unresolved failed polls, where they are shown. -/
def failedPollsText (s : State) : Option String :=
  let blockers := s.inputs.failedPollPersistenceBlockers
  if s.inputs.persistenceFaultActive || blockers.isEmpty then none
  else
    some ("Failed-poll persistence authority remains unresolved for: " ++
      ", ".intercalate ((blockers.map Prod.fst).mergeSort (· ≤ ·)))

def interlockSection (s : State) : List PlantHealthFact × List SafetyBlocker :=
  let dead : List PlantHealthFact × List SafetyBlocker :=
    match s.deadChannelsText with
    | none => ([], [])
    | some text =>
        ([⟨"interlock_channels", "Interlock channel availability", .fault,
            "mature_dead_interlock_channel"⟩],
          [⟨"mature_dead_interlock_channel", .fault, text,
            "Restore a usable persisted sample on every named protected channel"⟩])
  let blind : List PlantHealthFact :=
    match s.blindGuardsText with
    | some text =>
        [⟨if dead.1.isEmpty then "interlock_channels"
            else "interlock_blind_guards", text, .fault,
          "interlock_guard_blind"⟩]
    | none =>
        if dead.1.isEmpty then
          [⟨"interlock_channels", "Interlock channel availability", .ok,
            "interlock_channels_current"⟩]
        else []
  (dead.1 ++ blind, dead.2)

def persistenceSection (s : State) :
    List PlantHealthFact × List SafetyBlocker :=
  if s.inputs.persistenceFaultActive then
    ([⟨"persistence", "Persistence", .fault, "persistence_fault_active"⟩],
      [⟨"persistence_fault_active", .fault,
        "Persistence has an unacknowledged failure",
        "Restore persistence and complete explicit fault recovery"⟩])
  else
    match s.failedPollsText with
    | some text =>
        ([⟨"persistence", "Persistence", .fault,
            "failed_poll_persistence_unresolved"⟩],
          [⟨"failed_poll_persistence_unresolved", .fault, text,
            "Restore persistence-backed publication for every named instrument"⟩])
    | none =>
        ([⟨"persistence", "Persistence", .ok, "persistence_fault_absent"⟩], [])

/-- The cooldown predictor in the snapshot: a caution, never a blocker. -/
def predictorSection (s : State) : List PlantHealthFact :=
  if s.inputs.cooldownPredictorAvailable = some false then
    [⟨"cooldown_predictor",
      "Прогноз траектории захолаживания НЕДОСТУПЕН — расчёт времени до завершения не выполняется",
      .caution, "cooldown_predictor_unavailable"⟩]
  else []

/-- The FSM in the snapshot: its presentation and its own blocker. -/
def fsmSection (s : State) : PresentationState × List SafetyBlocker :=
  match s.control.state with
  | .faultLatched | .manualRecovery =>
      (.fault,
        [⟨"safety_state_" ++ s.control.state.value, .fault,
          "Safety fault recovery is incomplete",
          "Complete the explicit acknowledged recovery procedure"⟩])
  | .runPermitted | .running =>
      (.warning,
        [⟨"source_operation_active", .warning,
          "A source operation is active or being enabled",
          "Reach a readback-verified OFF state before readiness"⟩])
  | .safeOff =>
      (.caution,
        [⟨"safety_state_safe_off", .caution,
          "Safety is OFF but readiness has not been committed",
          "Wait for the safety monitor to commit READY preconditions"⟩])
  | .ready => (.ok, [])

/-- Every blocker of the snapshot, in the order they are collected. -/
def snapshotBlockers (s : State) (now : Int) : List SafetyBlocker :=
  s.childrenSection.2 ++ s.reviewedSourceSection.2 ++
    (s.criticalInputSection now).2 ++ s.interlockSection.2 ++
    s.persistenceSection.2 ++ s.fsmSection.2

/-- Every plant fact after the FSM's own, in the order they are collected. -/
def snapshotPlant (s : State) (now : Int) : List PlantHealthFact :=
  s.childrenSection.1 ++ s.reviewedSourceSection.1 ++
    (s.criticalInputSection now).1 ++ s.interlockSection.1 ++
    s.persistenceSection.1 ++ s.predictorSection

/-- The evidence that a refresh leaves: revoked by the driver's own negative
cache and by age. -/
def refreshEvidence (s : State) : State :=
  (if s.env.driver.isSome &&
      s.driverAttr Driver.outputStateUnverified .none == .bool true
    then s.setOffEvidence s.unknownGlobalOffEvidence else s
    ).expireStaleOffEvidence

/-- `MAX_TEXT_UTF8_BYTES`. -/
def maxTextUtf8Bytes : Nat := 256

/-- `MAX_NONNEGATIVE_INT`. -/
def maxNonnegativeInt : Nat := Nat.pow 2 63 - 1

/-- `_bounded_text`: why a text is refused. -/
def boundedTextRefusal (s : State) (field text : String) : Option Exc :=
  let forbidden := fun c =>
    let category := s.wiring.category c
    category.startsWith "C" || category == "Zl" || category == "Zp"
  if text.isEmpty || text != strip text then
    some (.raised .valueError (field ++
      " must be non-empty exact text without surrounding whitespace"))
  else if text != s.wiring.nfc text || maxTextUtf8Bytes < text.utf8ByteSize then
    some (.raised .valueError (field ++
      " exceeds its bounded NFC text contract"))
  else if text.toList.any forbidden then
    some (.raised .valueError (field ++ " contains forbidden control text"))
  else none

/-- Why the facts of a snapshot cannot be made.  Only the texts with names in
them are looked at: the others are literals of the source and in bounds. -/
def factRefusal (s : State) : Option Exc :=
  (s.deadChannelsText.bind (s.boundedTextRefusal "operator_text")).or
    ((s.blindGuardsText.bind (s.boundedTextRefusal "display_name")).or
      (s.failedPollsText.bind (s.boundedTextRefusal "operator_text")))

/-- `OperatorSafetySnapshot(...)`, and its assignment. -/
def replaceSnapshot (snapshot : OperatorSafetySnapshot) (s : State) :
    State × Option Exc :=
  if snapshot.revision ≤ maxNonnegativeInt then
    ({ s with snapshot := snapshot }, none)
  else
    (s, some (.raised .valueError
      "revision must be an exact integer in [1, 9223372036854775807]"))

/-- `_refresh_operator_safety_snapshot`: the state it leaves, and its
exception. -/
def refreshOperatorSafetySnapshot (s₀ : State) : State × Option Exc :=
  let observed := max s₀.env.now s₀.snapshot.observed
  let s := s₀.refreshEvidence
  match s.factRefusal with
  | some e => (s, some e)
  | none =>
  let blockers := s.snapshotBlockers observed
  let plant := s.snapshotPlant observed
  let fsm : PlantHealthFact :=
    ⟨"safety_fsm", "Safety state", s.fsmSection.1,
      "safety_state_" ++ s.control.state.value⟩
  if s.control.state = .ready ∧ !blockers.isEmpty then
    -- READY without its evidence is published as unknown, and the evidence
    -- is revoked with it.
    let s' := s.setOffEvidence s.unknownGlobalOffEvidence
    s'.replaceSnapshot
      { revision := s.snapshot.revision + 1
        observed := observed
        lifecycle := .unknown
        readiness := .unknown
        offEvidence := s'.link.offEvidence
        verifiedOff := false
        blockers := blockers
        plantHealth :=
          ⟨"safety_fsm", "Safety state", .caution,
            "ready_state_unqualified"⟩ :: plant }
  else
    s.replaceSnapshot
      { revision := s.snapshot.revision + 1
        observed := observed
        lifecycle := .known s.control.state
        readiness :=
          if s.control.state = .ready then .ready else .blocked
        offEvidence := s.link.offEvidence
        verifiedOff := s.snapshotVerifiedOff
        blockers := blockers
        plantHealth := fsm :: plant }

/-- One synchronous function after another, unless the first raised. -/
def andThen (r : State × Option Exc) (f : State → State × Option Exc) :
    State × Option Exc :=
  match r.2 with
  | none => f r.1
  | some _ => r

def explicitSimulationAuthorized (s : State) : Bool :=
  s.wiring.mock &&
    (s.env.driver.isNone ||
      (s.wiring.simulationBinding &&
        s.driverAttr Driver.mock .none == .bool true))

def energizingMutationRefusal (s : State) : Option String :=
  if s.explicitSimulationAuthorized then none
  else
    match s.wiring.qualificationExpires with
    | none =>
        some "UNQUALIFIED: a separately signed laboratory-qualification receipt is required"
    | some expires =>
        if s.env.now ≥ expires then
          some "UNQUALIFIED: laboratory-qualification receipt is stale"
        else none

/-- What refuses one accepted sample of a critical input. -/
def samplePreconditionRefusal (s : State) (m : InputId × Sample) :
    Option String :=
  if s.env.now - m.2.observed > s.wiring.config.staleTimeout then
    some ("Stale data: " ++ m.1.channel)
  else if s.hasInstrumentStatusFault m.1 then none
  else if !m.2.statusOk then
    some ("Channel " ++ m.1.channel ++ " status=" ++ m.2.status)
  else if !m.2.value.isFinite then
    some ("Channel " ++ m.1.channel ++ " invalid value " ++ m.2.value.text)
  else none

def criticalInputRefusal (s : State) : Option String :=
  s.criticalInputRequirements.findSome? fun requirement =>
    match requirement.2.findSome? s.samplePreconditionRefusal with
    | some reason => some reason
    | none =>
        if requirement.2.isEmpty && !s.wiring.mock then
          some ("No data for critical channel: " ++ requirement.1)
        else none

/-- The first precondition that fails: `_check_preconditions` returns
`(False, reason)` for it, and `(True, "")` when there is none. -/
def preconditionRefusal (s : State) : Option String :=
  match s.energizingMutationRefusal with
  | some reason => some reason
  | none =>
  if !s.safetyChildrenAuthoritative then
    some "Safety monitor/collector authority is unavailable"
  else if s.env.driver.isSome &&
      s.driverAttr Driver.watchdogTripPending (.bool false) == .bool true then
    some
      "Keithley watchdog has unconsumed prior-trip evidence — verified OFF and explicit fault acknowledgment required before RUN"
  else if !s.inputs.failedPollPersistenceBlockers.isEmpty then
    some
      ("Failed-poll persistence authority unresolved for instrument(s): " ++
        ", ".intercalate
          ((s.inputs.failedPollPersistenceBlockers.map Prod.fst).mergeSort
            (· ≤ ·)))
  else if !s.inputs.matureDeadInterlockChannels.isEmpty then
    some
      ("Persistently unusable interlock channel(s): " ++
        ", ".intercalate
          ((s.inputs.matureDeadInterlockChannels.map Prod.fst).mergeSort
            (· ≤ ·)))
  else
  match s.criticalInputRefusal with
  | some reason => some reason
  | none =>
  if s.wiring.config.requireKeithleyForRun && !s.wiring.mock &&
      s.env.driver.isNone then
    some "Keithley not connected"
  else if s.wiring.config.requireKeithleyForRun && !s.wiring.mock &&
      !(s.driverAttr Driver.connected (.bool false)).truthy then
    some "Keithley connected=False"
  else if !s.wiring.mock && !s.wiring.identityQualified then
    some "Reviewed source lacks exact sealed runtime binding authority"
  else if !s.wiring.mock &&
      (s.link.generation.isNone || !s.link.connected) then
    some "Reviewed source connection generation is UNAVAILABLE"
  else if !s.wiring.mock && decide (s.control.activeSources = ∅) &&
      !s.link.offEvidence.verifiedOff then
    some
      "Reviewed source OFF state is UNVERIFIED - confirm exact OFF before RUN"
  else if s.env.driver.isSome && decide (s.control.activeSources = ∅) &&
      (s.driverAttr Driver.outputStateUnverified (.bool false)).truthy then
    some
      "Keithley output state UNVERIFIED (current OFF proof absent or invalidated) — issue emergency off before RUN"
  else if s.control.state = .faultLatched then
    some ("Active fault: " ++ s.fault.reason)
  else none

def checkPreconditions (s : State) : Bool × String :=
  match s.preconditionRefusal with
  | some reason => (false, reason)
  | none => (true, "")

/-- What `_check_preconditions` asks for. -/
structure Preconditions (s : State) : Prop where
  qualified : s.energizingMutationRefusal = none
  children : s.safetyChildrenAuthoritative = true
  watchdog : s.env.driver.isSome = true →
    s.driverAttr Driver.watchdogTripPending (.bool false) ≠ .bool true
  polls : s.inputs.failedPollPersistenceBlockers = []
  interlocks : s.inputs.matureDeadInterlockChannels = []
  critical : s.criticalInputRefusal = none
  driver : s.wiring.config.requireKeithleyForRun = true →
    s.wiring.mock = false → s.env.driver.isSome = true
  connected : s.wiring.config.requireKeithleyForRun = true →
    s.wiring.mock = false →
      (s.driverAttr Driver.connected (.bool false)).truthy = true
  identity : s.wiring.mock = false → s.wiring.identityQualified = true
  generation : s.wiring.mock = false →
    s.link.generation.isSome = true ∧ s.link.connected = true
  verified : s.wiring.mock = false → s.control.activeSources = ∅ →
    s.link.offEvidence.verifiedOff = true
  output : s.env.driver.isSome = true → s.control.activeSources = ∅ →
    (s.driverAttr Driver.outputStateUnverified (.bool false)).truthy = false
  unlatched : s.control.state ≠ .faultLatched

theorem ite_some_eq_none {α : Type} {c : Prop} [Decidable c] {a : α}
    {o : Option α} : (if c then some a else o) = none ↔ ¬ c ∧ o = none := by
  by_cases h : c <;> simp [h]

theorem preconditionRefusal_eq_none (s : State) :
    s.preconditionRefusal = none ↔ s.Preconditions := by
  unfold preconditionRefusal
  cases hq : s.energizingMutationRefusal with
  | some reason =>
      refine ⟨fun h => absurd h (by simp), fun h => ?_⟩
      rw [h.qualified] at hq
      cases hq
  | none =>
      cases hc : s.criticalInputRefusal with
      | some reason =>
          simp only [ite_some_eq_none]
          refine ⟨fun h => absurd h.2.2.2.2 (by simp), fun h => ?_⟩
          rw [h.critical] at hc
          cases hc
      | none =>
          simp only [ite_some_eq_none]
          constructor
          · rintro ⟨h1, h2, h3, h4, h5, h6, h7, h8, h9, h10, h11, -⟩
            constructor <;> simp_all [Option.isSome_iff_ne_none]
          · intro h
            obtain ⟨-, h1, h2, h3, h4, -, h5, h6, h7, h8, h9, h10, h11⟩ := h
            simp_all [Option.isSome_iff_ne_none]

def hasFreshKeithleyData (s : State) (now : Int) (channel : SmuChannel) :
    Bool :=
  s.inputs.latest.any fun m =>
    m.2.statusOk && decide (m.1 ∈ s.wiring.heartbeatBindings channel) &&
      decide (now - m.2.observed < s.wiring.config.heartbeatTimeout)

def cooldownOperatorWarnings (s : State) : List OperatorWarning :=
  if s.inputs.cooldownPredictorAvailable ≠ some false then []
  else
    [{ code := .cooldownPredictorUnavailable
       operatorText := "Прогноз траектории захолаживания НЕДОСТУПЕН"
       consequence :=
         "Расчёт ожидаемой траектории и времени до завершения не выполняется"
       reason :=
         if s.inputs.cooldownPredictorUnavailableReason.isEmpty then
           "прогнозирование недоступно"
         else s.inputs.cooldownPredictorUnavailableReason }]

end State

end Safety
end CryoDaq
