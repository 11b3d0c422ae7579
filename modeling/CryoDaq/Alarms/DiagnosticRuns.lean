import CryoDaq.Alarms.DiagnosticTracking

/-!
# Diagnostic alarms track sustained anomalies

A run of the diagnostics engine is a sequence of updates with any scores, of acknowledgements and
of restarts of the grace window.  What a channel's alarm says is read off the results of the calls
outside the grace: the anomalous ones since the last `ok`.

**History.**  A run keeps what its calls found and returned.  `stretch` and `lastNotified` read a
channel's part of it; `Remembers` says that the engine's memories are these.
-/

namespace CryoDaq
namespace Alarms
namespace SensorDiagnosticsEngine

variable {e e' e'' : SensorDiagnosticsEngine} {channelId other : String}
  {L : List (Float × HealthStatus)} {x : Float × HealthStatus} {returned : List Event}

/-! ## The loop over the channels -/

structure Kept (e e' : SensorDiagnosticsEngine) (channelId : String) : Prop where
  settings : e'.settings = e.settings
  anomaly : e'.anomalyState.get? channelId = e.anomalyState.get? channelId
  notified : e'.channelLastNotified.get? channelId = e.channelLastNotified.get? channelId
  alarm : e'.alarm channelId = e.alarm channelId

theorem Kept.refl : Kept e e channelId :=
  ⟨rfl, rfl, rfl, rfl⟩

theorem Kept.trans (h : Kept e e' channelId) (h' : Kept e' e'' channelId) :
    Kept e e'' channelId :=
  ⟨h'.settings.trans h.settings, h'.anomaly.trans h.anomaly, h'.notified.trans h.notified,
    h'.alarm.trans h.alarm⟩

theorem Elsewhere.kept (h : Elsewhere e e' channelId) (hne : other ≠ channelId) :
    Kept e e' other :=
  ⟨h.settings, h.anomalies other hne, h.notified other hne, h.alarms other hne⟩

theorem Tracks.kept (h : Tracks e channelId L) (hkept : Kept e e' channelId) :
    Tracks e' channelId L where
  anomaly first hhead := by
    rw [hkept.anomaly, warned_congr hkept.settings, severe_congr hkept.settings]
    exact h.anomaly first hhead
  ended hnil := hkept.anomaly.trans (h.ended hnil)
  alarm := by
    rw [hkept.alarm, warned_congr hkept.settings, severe_congr hkept.settings, h.alarm]

theorem Kept.withinCooldown (h : Kept e e' channelId) (now : Float) :
    e'.withinCooldown channelId now = e.withinCooldown channelId now := by
  rw [SensorDiagnosticsEngine.withinCooldown, h.settings, h.notified,
    SensorDiagnosticsEngine.withinCooldown]

theorem Kept.warningLevels (h : Kept e e' channelId) (first now : Float) :
    e'.warningLevels channelId first now = e.warningLevels channelId first now := by
  rw [SensorDiagnosticsEngine.warningLevels, h.alarm, h.withinCooldown, warningDue, h.settings]
  rfl

theorem Follows.after (h : Follows e' e'' channelId L x returned) (hkept : Kept e e' channelId) :
    Follows e e'' channelId L x returned where
  tracks := h.tracks
  events := by
    rw [h.events, returnedLevels, hkept.warningLevels, hkept.alarm, returnedLevels]
  notified := by rw [h.notified, hkept.notified]

theorem Follows.before (h : Follows e e' channelId L x returned) (hkept : Kept e' e'' channelId) :
    Follows e e'' channelId L x returned where
  tracks := h.tracks.kept hkept
  events := by
    rw [h.events, returnedLevels, returnedLevels, hkept.alarm]
  notified := by rw [hkept.notified, h.notified]

def eventsOf (channelId : String) (returned : List Event) : List Event :=
  returned.filter fun event => event.alarmId == diagnosticId channelId

theorem eventsOf_append (first later : List Event) :
    eventsOf channelId (first ++ later) = eventsOf channelId first ++ eventsOf channelId later :=
  List.filter_append ..

theorem Follows.alarmId (h : Follows e e' other L x returned) {event : Event}
    (hmem : event ∈ returned) : event.alarmId = diagnosticId other := by
  have hnamed : named event ∈ returned.map named := List.mem_map_of_mem hmem
  rw [h.events] at hnamed
  obtain ⟨level, _, heq⟩ := List.mem_map.mp hnamed
  exact (congrArg Prod.fst heq).symm

theorem Follows.eventsOf_self (h : Follows e e' channelId L x returned) :
    eventsOf channelId returned = returned :=
  List.filter_eq_self.mpr fun _ hmem => beq_iff_eq.mpr (h.alarmId hmem)

theorem Follows.eventsOf_other (h : Follows e e' other L x returned) (hne : channelId ≠ other) :
    eventsOf channelId returned = [] := by
  refine List.filter_eq_nil_iff.mpr fun event hmem hid => hne ?_
  rw [h.alarmId hmem] at hid
  exact (diagnosticId_injective (beq_iff_eq.mp hid)).symm

/-- What the loop does for every channel, scored or not. -/
structure Round (e e' : SensorDiagnosticsEngine) (now : Float) (entries : List (String × ℤ))
    (stretches : String → List (Float × HealthStatus)) (returned : List Event) : Prop where
  settings : e'.settings = e.settings
  started : e'.engineStartedMono = e.engineStartedMono
  scored : ∀ channelId healthScore, entries.lookup channelId = some healthScore →
    Follows e e' channelId (stretches channelId) (now, healthToStatus healthScore)
      (eventsOf channelId returned)
  unscored : ∀ channelId, entries.lookup channelId = none →
    Kept e e' channelId ∧ eventsOf channelId returned = []

theorem trackEach_round (now : Float) (wall : String → Clock) (entries : List (String × ℤ))
    (hnodup : (entries.map Prod.fst).Nodup) (e : SensorDiagnosticsEngine)
    (stretches : String → List (Float × HealthStatus))
    (h : ∀ channelId, Tracks e channelId (stretches channelId)) :
    Round e (trackEach now wall entries e).1 now entries stretches
      (trackEach now wall entries e).2 := by
  induction entries generalizing e stretches with
  | nil =>
      refine ⟨rfl, rfl, fun _ _ hlookup => ?_, fun _ _ => ⟨.refl, rfl⟩⟩
      cases hlookup
  | cons p rest ih =>
      rw [List.map_cons, List.nodup_cons] at hnodup
      obtain ⟨helsewhere, hfollows⟩ := (h p.1).track now wall p.2
      rw [trackEach]
      generalize e.track now wall p.1 p.2 = first at helsewhere hfollows
      have htracks (channelId : String) : Tracks first.1 channelId
          (Function.update stretches p.1 (extend (stretches p.1) (now, healthToStatus p.2))
            channelId) := by
        by_cases heq : channelId = p.1
        · rw [heq, Function.update_self]
          exact hfollows.tracks
        · rw [Function.update_of_ne heq]
          exact (h channelId).kept (helsewhere.kept heq)
      have hround := ih hnodup.2 first.1 _ htracks
      refine ⟨hround.settings.trans helsewhere.settings,
        hround.started.trans helsewhere.started, fun channelId healthScore hlookup => ?_,
        fun channelId hlookup => ?_⟩
      · rw [Dict.lookup_cons_ite] at hlookup
        rw [eventsOf_append]
        by_cases heq : channelId = p.1
        · -- scored here, and not again
          rw [if_pos heq] at hlookup
          cases hlookup
          have hnone : rest.lookup p.1 = none := by
            rw [List.lookup_eq_none_iff]
            exact fun q hmem => bne_iff_ne.mpr fun hq => hnodup.1 (hq ▸ List.mem_map_of_mem hmem)
          obtain ⟨hkept, hevents⟩ := hround.unscored p.1 hnone
          rw [heq, hevents, List.append_nil, hfollows.eventsOf_self]
          exact hfollows.before hkept
        · rw [if_neg heq] at hlookup
          have hlater := hround.scored channelId healthScore hlookup
          rw [Function.update_of_ne heq] at hlater
          rw [hfollows.eventsOf_other heq, List.nil_append]
          exact hlater.after (helsewhere.kept heq)
      · rw [Dict.lookup_cons_ite] at hlookup
        have hne : channelId ≠ p.1 := by
          intro heq
          rw [if_pos heq] at hlookup
          cases hlookup
        rw [if_neg hne] at hlookup
        obtain ⟨hkept, hevents⟩ := hround.unscored channelId hlookup
        rw [eventsOf_append, hfollows.eventsOf_other hne, hevents]
        exact ⟨(helsewhere.kept hne).trans hkept, rfl⟩

structure Outcome where
  call : DiagnosticCall
  inGrace : Bool
  returned : List Event

/-- The result of a call for a channel: none without data, and none inside the grace. -/
def Outcome.result (channelId : String) (outcome : Outcome) : Option (Float × HealthStatus) :=
  if outcome.inGrace then none
  else (outcome.call.scores.get? channelId).map fun healthScore =>
    (outcome.call.clock, healthToStatus healthScore)

/-- The results of a channel since its last `ok`, all of them anomalous. -/
def stretch (channelId : String) (history : List Outcome) : List (Float × HealthStatus) :=
  ((history.filterMap (Outcome.result channelId)).reverse.takeWhile
    fun result => !decide (result.2 = .ok)).reverse

/-- The clock of the last call that returned an event of a channel. -/
def lastNotified (channelId : String) (history : List Outcome) : Option Float :=
  (history.reverse.find? fun outcome => !(eventsOf channelId outcome.returned).isEmpty).map
    fun outcome => outcome.call.clock

/-- The channel was notified within the cooldown. -/
def cooling (settings : DiagnosticSettings) (channelId : String) (history : List Outcome)
    (now : Float) : Bool :=
  decide (0 < settings.escalationCooldownS) && (lastNotified channelId history).any fun last =>
    decide (now - last < settings.escalationCooldownS)

/-- What a call of `update` adds to the history. -/
def outcome (e : SensorDiagnosticsEngine) (call : DiagnosticCall) : Outcome :=
  ⟨call, e.isInGracePeriod call.graceClock, (e.update call).2⟩

/-- The calls of `update`, with acknowledgements and restarts of the grace between them. -/
inductive DiagnosticRun (settings : DiagnosticSettings) :
    List Outcome → SensorDiagnosticsEngine → Prop
  | start : DiagnosticRun settings [] (.new settings)
  | update {history : List Outcome} {e : SensorDiagnosticsEngine} (call : DiagnosticCall) :
      DiagnosticRun settings history e →
      DiagnosticRun settings (history ++ [e.outcome call]) (e.update call).1
  | acknowledge {history : List Outcome} {e : SensorDiagnosticsEngine}
      (request : AcknowledgeRequest) (clock : Clock) :
      DiagnosticRun settings history e → DiagnosticRun settings history (e.acknowledge request clock)
  | markEngineStarted {history : List Outcome} {e : SensorDiagnosticsEngine} (now : Float) :
      DiagnosticRun settings history e → DiagnosticRun settings history (e.markEngineStarted now)

theorem stretch_snoc (channelId : String) (history : List Outcome) (outcome : Outcome) :
    stretch channelId (history ++ [outcome]) =
      (outcome.result channelId).elim (stretch channelId history)
        (extend (stretch channelId history)) := by
  rw [stretch, List.filterMap_append, List.filterMap_cons, List.filterMap_nil]
  cases outcome.result channelId with
  | none => rw [List.append_nil, Option.elim_none, stretch]
  | some result =>
      rw [List.reverse_append, List.reverse_singleton, List.singleton_append, List.takeWhile_cons,
        Option.elim_some, extend]
      by_cases hok : result.2 = .ok
      · rw [decide_eq_true hok, if_pos hok]
        rfl
      · rw [decide_eq_false hok, if_neg hok, Bool.not_false, if_pos rfl, List.reverse_cons, stretch]

theorem lastNotified_snoc (channelId : String) (history : List Outcome) (outcome : Outcome) :
    lastNotified channelId (history ++ [outcome]) =
      if eventsOf channelId outcome.returned = [] then lastNotified channelId history
      else some outcome.call.clock := by
  rw [lastNotified, List.reverse_append, List.reverse_singleton, List.singleton_append,
    List.find?_cons]
  cases eventsOf channelId outcome.returned with
  | nil => rfl
  | cons event rest => rfl

/-- The memories of the engine are what its history says. -/
structure Remembers (settings : DiagnosticSettings) (history : List Outcome)
    (e : SensorDiagnosticsEngine) : Prop where
  settings : e.settings = settings
  tracks : ∀ channelId, Tracks e channelId (stretch channelId history)
  notified : ∀ channelId, e.channelLastNotified.get? channelId = lastNotified channelId history

variable {settings : DiagnosticSettings} {history : List Outcome}

theorem Remembers.withinCooldown (h : Remembers settings history e) (channelId : String)
    (now : Float) : e.withinCooldown channelId now = cooling settings channelId history now := by
  rw [SensorDiagnosticsEngine.withinCooldown, h.settings, h.notified, cooling]

theorem remembers_new (settings : DiagnosticSettings) : Remembers settings [] (.new settings) :=
  ⟨rfl, fun _ => ⟨fun _ hhead => (Option.some_ne_none _ hhead.symm).elim, fun _ => rfl, rfl⟩,
    fun _ => rfl⟩

theorem Remembers.round (h : Remembers settings history e) (call : DiagnosticCall)
    (hgrace : e.isInGracePeriod call.graceClock = false) :
    Round e (e.update call).1 call.clock call.scores.entries
      (fun channelId => stretch channelId history) (e.update call).2 := by
  have hrun : e.update call = trackEach call.clock call.wall call.scores.entries
      { e with diagnostics := call.scores } := if_neg (Bool.eq_false_iff.mp hgrace)
  have hround : Round { e with diagnostics := call.scores } (e.update call).1 call.clock
      call.scores.entries (fun channelId => stretch channelId history) (e.update call).2 := by
    rw [hrun]
    refine trackEach_round _ _ _ call.scores.nodup _ _ fun channelId => ?_
    exact (h.tracks channelId).kept ⟨rfl, rfl, rfl, rfl⟩
  refine ⟨hround.settings, hround.started,
    fun channelId healthScore hlookup =>
      (hround.scored channelId healthScore hlookup).after ⟨rfl, rfl, rfl, rfl⟩,
    fun channelId hlookup => ?_⟩
  obtain ⟨hkept, hevents⟩ := hround.unscored channelId hlookup
  exact ⟨⟨hkept.settings, hkept.anomaly, hkept.notified, hkept.alarm⟩, hevents⟩

theorem result_outcome {call : DiagnosticCall} (channelId : String)
    (hgrace : e.isInGracePeriod call.graceClock = false) :
    (e.outcome call).result channelId = (call.scores.get? channelId).map fun healthScore =>
      (call.clock, healthToStatus healthScore) :=
  if_neg (Bool.eq_false_iff.mp hgrace)

theorem Remembers.update (h : Remembers settings history e) (call : DiagnosticCall) :
    Remembers settings (history ++ [e.outcome call]) (e.update call).1 := by
  cases hgrace : e.isInGracePeriod call.graceClock with
  | true =>
      have hrun : e.update call = ({ e with diagnostics := call.scores }, []) := if_pos hgrace
      have hresult (channelId : String) : (e.outcome call).result channelId = none := if_pos hgrace
      have hreturned : (e.outcome call).returned = [] := congrArg Prod.snd hrun
      rw [hrun]
      refine ⟨h.settings, fun channelId => ?_, fun channelId => ?_⟩
      · rw [stretch_snoc, hresult]
        exact (h.tracks channelId).kept ⟨rfl, rfl, rfl, rfl⟩
      · rw [lastNotified_snoc, hreturned]
        exact h.notified channelId
  | false =>
      have hround := h.round call hgrace
      refine ⟨hround.settings.trans h.settings, fun channelId => ?_, fun channelId => ?_⟩
      · rw [stretch_snoc, result_outcome channelId hgrace]
        cases hscore : call.scores.get? channelId with
        | none => exact (h.tracks channelId).kept (hround.unscored channelId hscore).1
        | some healthScore => exact (hround.scored channelId healthScore hscore).tracks
      · rw [lastNotified_snoc]
        cases hscore : call.scores.get? channelId with
        | none =>
            obtain ⟨hkept, hevents⟩ := hround.unscored channelId hscore
            rw [hkept.notified, h.notified]
            exact (if_pos hevents).symm
        | some healthScore =>
            rw [(hround.scored channelId healthScore hscore).notified, h.notified]
            rfl

theorem Remembers.acknowledge (h : Remembers settings history e) (request : AcknowledgeRequest)
    (clock : Clock) : Remembers settings history (e.acknowledge request clock) :=
  ⟨h.settings, fun channelId => (h.tracks channelId).kept
    ⟨rfl, rfl, rfl, acknowledge_alarmOf request⟩, h.notified⟩

theorem DiagnosticRun.remembers (h : DiagnosticRun settings history e) :
    Remembers settings history e := by
  induction h with
  | start => exact remembers_new settings
  | update call _ ih => exact ih.update call
  | acknowledge request clock _ ih => exact ih.acknowledge request clock
  | markEngineStarted now _ ih =>
      exact ⟨ih.settings, fun channelId => (ih.tracks channelId).kept ⟨rfl, rfl, rfl, rfl⟩,
        ih.notified⟩

/-! ## What the alarms say -/

theorem alarmFor_isSome {warning critical : Bool} :
    (alarmFor channelId warning critical).isSome = true ↔ warning = true ∨ critical = true := by
  cases critical <;> cases warning <;> simp [alarmFor]

theorem alarmFor_level {warning critical : Bool} :
    (alarmFor channelId warning critical).map Prod.snd = some "CRITICAL" ↔ critical = true := by
  cases critical <;> cases warning <;> simp [alarmFor]

/-- The events that a channel is notified of: the warning of an alarm that was not active, and
`CRITICAL` when that becomes the level. -/
def expected (settings : DiagnosticSettings) (history : List Outcome)
    (e : SensorDiagnosticsEngine) (call : DiagnosticCall) (channelId : String) :
    List (String × String) :=
  (if e.alarm channelId = none ∧
      settings.warned (stretch channelId (history ++ [e.outcome call])) = true ∧
      cooling settings channelId history call.clock = false
    then [(diagnosticId channelId, "WARNING")] else []) ++
  if e.alarm channelId ≠ some (diagnosticId channelId, "CRITICAL") ∧
      (e.update call).1.alarm channelId = some (diagnosticId channelId, "CRITICAL")
    then [(diagnosticId channelId, "CRITICAL")] else []

theorem Remembers.warningLevels (h : Remembers settings history e) (channelId : String)
    (x : Float × HealthStatus) :
    e.warningLevels channelId (firstOf (stretch channelId history) x) x.1 =
      if e.alarm channelId = none ∧ settings.warned (stretch channelId history ++ [x]) = true ∧
        cooling settings channelId history x.1 = false then ["WARNING"] else [] := by
  rw [SensorDiagnosticsEngine.warningLevels]
  refine if_congr ?_ rfl rfl
  rw [h.withinCooldown]
  refine and_congr_right fun hnone => and_congr_left' ?_
  rw [(h.tracks channelId).alarm, alarmFor_eq_none] at hnone
  rw [← h.settings, warned_snoc, hnone.1, Bool.false_or]

theorem Remembers.events (h : Remembers settings history e) (call : DiagnosticCall)
    (hgrace : e.isInGracePeriod call.graceClock = false) (channelId : String) :
    (eventsOf channelId (e.update call).2).map named =
      expected settings history e call channelId := by
  have hround := h.round call hgrace
  have halarm := (h.tracks channelId).alarm
  have hafter := ((h.update call).tracks channelId).alarm
  rw [expected]
  cases hscore : call.scores.get? channelId with
  | none =>
      -- nothing changes
      obtain ⟨hkept, hevents⟩ := hround.unscored channelId hscore
      have hstretch : stretch channelId (history ++ [e.outcome call]) =
          stretch channelId history := by
        rw [stretch_snoc, result_outcome channelId hgrace, hscore]
        rfl
      rw [hevents, hstretch, hkept.alarm, if_neg, if_neg fun hnew => hnew.1 hnew.2]
      · rfl
      · rintro ⟨hnone, hwarned, _⟩
        rw [halarm, alarmFor_eq_none, h.settings] at hnone
        exact Bool.eq_false_iff.mp hnone.1 hwarned
  | some healthScore =>
      have hfollows := hround.scored channelId healthScore hscore
      have hstretch : stretch channelId (history ++ [e.outcome call]) =
          extend (stretch channelId history) (call.clock, healthToStatus healthScore) := by
        rw [stretch_snoc, result_outcome channelId hgrace, hscore]
        rfl
      rw [hfollows.events]
      by_cases hok : healthToStatus healthScore = .ok
      · have hnil : stretch channelId (history ++ [e.outcome call]) = [] :=
          hstretch.trans (if_pos hok)
        rw [hnil] at hafter ⊢
        rw [if_pos hok, if_neg fun hnew => Bool.false_ne_true hnew.2.1, if_neg]
        · rfl
        · rintro ⟨_, hcritical⟩
          rw [hafter] at hcritical
          exact Option.some_ne_none _ hcritical.symm
      · have hsnoc : stretch channelId (history ++ [e.outcome call]) =
            stretch channelId history ++ [(call.clock, healthToStatus healthScore)] :=
          hstretch.trans (if_neg hok)
        rw [if_neg hok, returnedLevels, h.warningLevels, hsnoc, List.map_append, apply_ite
          (List.map _), apply_ite (List.map _)]
        rfl

/-- After a call outside the grace a channel's alarm says what its stretch was, and the call
returns what the channel is notified of. -/
theorem diagnostic_alarms_track_anomalies (hrun : DiagnosticRun settings history e)
    (call : DiagnosticCall) (hgrace : e.isInGracePeriod call.graceClock = false)
    (channelId : String) :
    (((e.update call).1.alarm channelId).isSome = true ↔
      settings.warned (stretch channelId (history ++ [e.outcome call])) = true ∨
        settings.severe (stretch channelId (history ++ [e.outcome call])) = true) ∧
    (((e.update call).1.alarm channelId).map Prod.snd = some "CRITICAL" ↔
      settings.severe (stretch channelId (history ++ [e.outcome call])) = true) ∧
    (call.scores.get? channelId = none →
      stretch channelId (history ++ [e.outcome call]) = stretch channelId history ∧
        (e.update call).1.alarm channelId = e.alarm channelId) ∧
    (eventsOf channelId (e.update call).2).map named =
      expected settings history e call channelId := by
  have hafter := hrun.remembers.update call
  have halarm := (hafter.tracks channelId).alarm
  rw [hafter.settings] at halarm
  refine ⟨?_, ?_, fun hscore => ⟨?_, ?_⟩, hrun.remembers.events call hgrace channelId⟩
  · rw [halarm, alarmFor_isSome]
  · rw [halarm, alarmFor_level]
  · rw [stretch_snoc, result_outcome channelId hgrace, hscore]
    rfl
  · exact ((hrun.remembers.round call hgrace).unscored channelId hscore).1.alarm

def benchSettings (warningDurationS criticalDurationS : Float) : DiagnosticSettings where
  warningDurationS := warningDurationS
  criticalDurationS := criticalDurationS
  escalationCooldownS := 120
  coldStartGraceS := 60
  age := fun _ => "0"

def benchCall (now : Float) (healthScore : ℤ) : DiagnosticCall where
  scores := Dict.empty.set "T1" healthScore
  graceClock := now
  clock := now
  wall := fun _ _ => 0

/-- A call on an engine that was just built. -/
def benchOnce (settings : DiagnosticSettings) (now : Float) (healthScore : ℤ) :
    SensorDiagnosticsEngine :=
  ((new settings).update (benchCall now healthScore)).1

theorem diagnostic_alarms_track_anomalies_bench :
    (eventsOf "T1" ((benchOnce (benchSettings 300 900) 0 60).update (benchCall 300 60)).2).map
        named = expected (benchSettings 300 900)
          [(new (benchSettings 300 900)).outcome (benchCall 0 60)]
          (benchOnce (benchSettings 300 900) 0 60) (benchCall 300 60) "T1" :=
  (diagnostic_alarms_track_anomalies (.update (benchCall 0 60) (.start)) (benchCall 300 60) rfl
    "T1").2.2.2

def Outcome.counted (outcome : Outcome) : Outcome :=
  { outcome with inGrace := false }

/-- A channel that is critical before the warning's duration has an alarm; and an anomaly that
began within the grace has none when the warning's duration is over. -/
theorem warning_duration_does_not_decide :
    (∃ settings history e call, DiagnosticRun settings history e ∧
      e.isInGracePeriod call.graceClock = false ∧ (e.update call).1.alarm "T1" ≠ none ∧
      settings.warned (stretch "T1" (history ++ [e.outcome call])) = false) ∧
    ∃ settings history e call, DiagnosticRun settings history e ∧
      e.isInGracePeriod call.graceClock = false ∧ (e.update call).1.alarm "T1" = none ∧
      settings.warned (stretch "T1" ((history ++ [e.outcome call]).map Outcome.counted)) =
        true := by
  refine ⟨⟨benchSettings 300 100, _, _, benchCall 100 20, .update (benchCall 0 20) .start,
    ?_, ?_, ?_⟩, ⟨benchSettings 300 900, _, _, benchCall 300 60,
    .update (benchCall 0 60) (.markEngineStarted 0 .start), ?_, ?_, ?_⟩⟩
  all_goals decide +kernel

end SensorDiagnosticsEngine
end Alarms
end CryoDaq
