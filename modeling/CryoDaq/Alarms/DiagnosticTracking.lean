import CryoDaq.Alarms.Diagnostics

/-!
# One channel of a diagnostic call

What a call of the diagnostics engine does for a channel: its anomaly, the alarm and the events
that are returned.

**Stretches.**  The anomalous results of a channel since its last `ok` are its stretch.  The engine
keeps of it the first time and two publication marks, the manager keeps the alarm; `Tracks` ties
them to the stretch.
-/

namespace CryoDaq
namespace Alarms

def alarmOf (m : AlarmStateManager) (channelId : String) : Option (String × String) :=
  (m.active.get? (diagnosticId channelId)).map fun event => (event.alarmId, event.level)

def named (event : Event) : String × String := (event.alarmId, event.level)

variable {m : AlarmStateManager} {channelId other : String} {severity : Severity}
  {ageSeconds : Float} {message : String} {clock : Clock}

theorem diagnosticId_injective (h : diagnosticId other = diagnosticId channelId) :
    other = channelId := by
  have hlists := congrArg String.toList h
  rw [diagnosticId, diagnosticId, String.toList_append, String.toList_append] at hlists
  exact String.ext_iff.mpr (List.append_cancel_left hlists)

theorem get?_set_other {event : Event} (active : Dict String Event) (hne : other ≠ channelId) :
    (active.set (diagnosticId channelId) event).get? (diagnosticId other) =
      active.get? (diagnosticId other) :=
  active.get?_set_of_ne event fun h => hne (diagnosticId_injective h)

structure Publication (m : AlarmStateManager) (channelId level : String) (m' : AlarmStateManager)
    (event : Event) : Prop where
  named : named event = (diagnosticId channelId, level)
  alarm : alarmOf m' channelId = some (diagnosticId channelId, level)
  others : ∀ other, other ≠ channelId → alarmOf m' other = alarmOf m other

theorem publish_new (severity : Severity) (ageSeconds : Float) (message : String) (clock : Clock)
    (h : alarmOf m channelId = none) :
    ∃ m' event, m.publishDiagnosticAlarm channelId severity ageSeconds message clock =
      (m', some event) ∧ Publication m channelId severity.upper m' event := by
  have hget : m.active.get? (diagnosticId channelId) = none := Option.map_eq_none_iff.mp h
  simp only [AlarmStateManager.publishDiagnosticAlarm, hget]
  refine ⟨_, _, rfl, rfl, ?_, fun other hne => ?_⟩
  · rw [alarmOf, AlarmStateManager.activate, AlarmStateManager.active_record]
    change ((m.active.set _ _).get? _).map _ = _
    rw [Dict.get?_set_self]
    rfl
  · rw [alarmOf, AlarmStateManager.activate, AlarmStateManager.active_record]
    change ((m.active.set _ _).get? _).map _ = _
    rw [get?_set_other m.active hne, alarmOf]

theorem publish_upgrade (ageSeconds : Float) (message : String) (clock : Clock)
    (h : alarmOf m channelId = some (diagnosticId channelId, "WARNING")) :
    ∃ m' event, m.publishDiagnosticAlarm channelId .critical ageSeconds message clock =
      (m', some event) ∧ Publication m channelId "CRITICAL" m' event := by
  obtain ⟨existing, hget, hnamed⟩ := Option.map_eq_some_iff.mp h
  rw [Prod.mk.injEq] at hnamed
  obtain ⟨hid, hlevel⟩ := hnamed
  simp only [AlarmStateManager.publishDiagnosticAlarm, hget]
  rw [if_pos ⟨rfl, hlevel⟩]
  refine ⟨_, _, rfl, ?_, ?_, fun other hne => ?_⟩
  · rw [named, hid]
    rfl
  · rw [alarmOf, AlarmStateManager.active_record]
    change ((m.active.set _ _).get? _).map _ = _
    rw [Dict.get?_set_self, Option.map_some, hid]
    rfl
  · rw [alarmOf, AlarmStateManager.active_record]
    change ((m.active.set _ _).get? _).map _ = _
    rw [get?_set_other m.active hne, alarmOf]

theorem publish_again {alarmId level : String} (h : alarmOf m channelId = some (alarmId, level))
    (hlevel : severity = .warning ∨ level = "CRITICAL") :
    m.publishDiagnosticAlarm channelId severity ageSeconds message clock = (m, none) := by
  obtain ⟨existing, hget, hnamed⟩ := Option.map_eq_some_iff.mp h
  rw [Prod.mk.injEq] at hnamed
  simp only [AlarmStateManager.publishDiagnosticAlarm, hget]
  rw [if_neg]
  rintro ⟨hsevere, hwarning⟩
  rcases hlevel with rfl | hcritical
  · exact absurd hsevere (by decide)
  · rw [← hnamed.2, hwarning] at hcritical
    exact absurd hcritical (by decide)

theorem clear_alarmOf : alarmOf (m.clearDiagnosticAlarm channelId clock) other =
    if other = channelId then none else alarmOf m other := by
  rw [AlarmStateManager.clearDiagnosticAlarm]
  by_cases hactive : (m.active.get? (diagnosticId channelId)).isSome = true
  · rw [if_pos hactive, alarmOf, AlarmStateManager.deactivate, AlarmStateManager.active_record]
    change ((m.active.erase _).get? _).map _ = _
    rw [Dict.get?_erase]
    by_cases hother : other = channelId
    · rw [if_pos (congrArg diagnosticId hother), if_pos hother]
      rfl
    · rw [if_neg fun h => hother (diagnosticId_injective h), if_neg hother, alarmOf]
  · rw [if_neg hactive]
    split
    case isTrue hother =>
      rw [hother, alarmOf, Option.not_isSome_iff_eq_none.mp hactive]
      rfl
    case isFalse => rfl

theorem acknowledge_alarmOf (request : AcknowledgeRequest) :
    alarmOf (m.acknowledge request clock).1 channelId = alarmOf m channelId := by
  rw [AlarmStateManager.acknowledge]
  split
  · rfl
  cases hget : m.active.get? request.alarmId with
  | none => rfl
  | some event =>
      simp only
      split
      · rfl
      split
      · rfl
      rw [alarmOf, AlarmStateManager.active_record]
      change ((m.active.set request.alarmId _).get? _).map _ = _
      rw [Dict.get?_set, alarmOf]
      split
      case isTrue heq =>
        rw [heq, hget]
        rfl
      case isFalse => rfl

/-! ## One channel of a call -/

/-- What the two publication marks say about the alarm. -/
def alarmFor (channelId : String) (warned critical : Bool) : Option (String × String) :=
  if critical then some (diagnosticId channelId, "CRITICAL")
  else if warned then some (diagnosticId channelId, "WARNING")
  else none

namespace SensorDiagnosticsEngine

variable {e e' : SensorDiagnosticsEngine} {state : AnomalyState} {now : Float} {wall : Clock}
  {status : HealthStatus}

def alarm (e : SensorDiagnosticsEngine) (channelId : String) : Option (String × String) :=
  alarmOf e.alarmPublisher channelId

/-- The memories of the other channels, and what belongs to none. -/
structure Elsewhere (e e' : SensorDiagnosticsEngine) (channelId : String) : Prop where
  settings : e'.settings = e.settings
  started : e'.engineStartedMono = e.engineStartedMono
  anomalies : ∀ other, other ≠ channelId →
    e'.anomalyState.get? other = e.anomalyState.get? other
  notified : ∀ other, other ≠ channelId →
    e'.channelLastNotified.get? other = e.channelLastNotified.get? other
  alarms : ∀ other, other ≠ channelId → e'.alarm other = e.alarm other

theorem Elsewhere.refl : Elsewhere e e channelId :=
  ⟨rfl, rfl, fun _ _ => rfl, fun _ _ => rfl, fun _ _ => rfl⟩

theorem Elsewhere.trans {e'' : SensorDiagnosticsEngine} (h : Elsewhere e e' channelId)
    (h' : Elsewhere e' e'' channelId) : Elsewhere e e'' channelId where
  settings := h'.settings.trans h.settings
  started := h'.started.trans h.started
  anomalies other hne := (h'.anomalies other hne).trans (h.anomalies other hne)
  notified other hne := (h'.notified other hne).trans (h.notified other hne)
  alarms other hne := (h'.alarms other hne).trans (h.alarms other hne)

theorem elsewhere_published {m : AlarmStateManager}
    (h : ∀ other, other ≠ channelId → alarmOf m other = alarmOf e.alarmPublisher other) :
    Elsewhere e { e with alarmPublisher := m } channelId :=
  ⟨rfl, rfl, fun _ _ => rfl, fun _ _ => rfl, h⟩

theorem elsewhere_notify (event : Event) : Elsewhere e (e.notify channelId now event).1 channelId :=
  ⟨rfl, rfl, fun _ _ => rfl, fun _ hne => e.channelLastNotified.get?_set_of_ne now hne,
    fun _ _ => rfl⟩

/-- What a publication does to the marks of an anomaly, the alarm and the last notification, and
the levels of the events that it returns. -/
structure Publishes (e : SensorDiagnosticsEngine) (channelId : String) (state : AnomalyState)
    (now : Float) (warning severe : Bool) (levels : List String)
    (r : SensorDiagnosticsEngine × AnomalyState × List Event) : Prop where
  elsewhere : Elsewhere e r.1 channelId
  first : r.2.1.firstAnomalyTs = state.firstAnomalyTs
  current : r.2.1.currentStatus = state.currentStatus
  warned : r.2.1.lastWarningPublishedTs.isSome = warning
  critical : r.2.1.lastCriticalPublishedTs.isSome = severe
  alarm : r.1.alarm channelId = alarmFor channelId warning severe
  events : r.2.2.map named = levels.map fun level => (diagnosticId channelId, level)
  notified : r.1.channelLastNotified.get? channelId =
    if levels = [] then e.channelLastNotified.get? channelId else some now

theorem Publishes.notified_eq {warning severe : Bool} {levels : List String}
    {r : SensorDiagnosticsEngine × AnomalyState × List Event}
    (h : Publishes e channelId state now warning severe levels r) :
    r.1.channelLastNotified.get? channelId =
      if r.2.2 = [] then e.channelLastNotified.get? channelId else some now := by
  have hempty : levels = [] ↔ r.2.2 = [] := by
    rw [← List.map_eq_nil_iff (f := named), h.events, List.map_eq_nil_iff]
  rw [h.notified, if_congr hempty rfl rfl]

def warningDue (e : SensorDiagnosticsEngine) (first now : Float) : Bool :=
  decide (e.settings.warningDurationS ≤ now - first)

def criticalDue (e : SensorDiagnosticsEngine) (first now : Float) (status : HealthStatus) : Bool :=
  decide (e.settings.criticalDurationS ≤ now - first) && decide (status = .critical)

/-- The levels that the warning's part of a call returns. -/
def warningLevels (e : SensorDiagnosticsEngine) (channelId : String) (first now : Float) :
    List String :=
  if e.alarm channelId = none ∧ e.warningDue first now = true ∧
      e.withinCooldown channelId now = false then ["WARNING"] else []

/-- The levels that the critical part of a call returns. -/
def criticalLevels (e : SensorDiagnosticsEngine) (channelId : String) (first now : Float)
    (status : HealthStatus) : List String :=
  if e.alarm channelId ≠ some (diagnosticId channelId, "CRITICAL") ∧
      e.criticalDue first now status = true then ["CRITICAL"] else []

theorem isSome_of_not_isNone {α : Type} {o : Option α} (h : ¬ o.isNone = true) :
    o.isSome = true := by
  cases o with
  | none => exact absurd rfl h
  | some a => rfl

theorem publishes_nothing (now : Float) (h : e.alarm channelId = alarmFor channelId
      state.lastWarningPublishedTs.isSome state.lastCriticalPublishedTs.isSome) :
    Publishes e channelId state now state.lastWarningPublishedTs.isSome
      state.lastCriticalPublishedTs.isSome [] (e, state, []) :=
  ⟨.refl, rfl, rfl, rfl, rfl, h, rfl, rfl⟩

/-- The warning is published when it is due and was not; its event is returned when the alarm is
new and the channel is not within its cooldown. -/
theorem publishWarning_publishes (h : e.alarm channelId = alarmFor channelId
      state.lastWarningPublishedTs.isSome state.lastCriticalPublishedTs.isSome) :
    Publishes e channelId state now
      (state.lastWarningPublishedTs.isSome || e.warningDue state.firstAnomalyTs now)
      state.lastCriticalPublishedTs.isSome (e.warningLevels channelId state.firstAnomalyTs now)
      (e.publishWarning channelId state now wall) := by
  cases hdue : e.warningDue state.firstAnomalyTs now with
  | false =>
      have hlevels : e.warningLevels channelId state.firstAnomalyTs now = [] :=
        if_neg fun hnew => Bool.eq_false_iff.mp hdue hnew.2.1
      have hrun : e.publishWarning channelId state now wall = (e, state, []) :=
        if_neg fun hnew => of_decide_eq_false hdue hnew.1
      rw [hlevels, hrun, Bool.or_false]
      exact publishes_nothing now h
  | true =>
      have hlong : e.settings.warningDurationS ≤ now - state.firstAnomalyTs := of_decide_eq_true hdue
      rw [Bool.or_true]
      by_cases hnone : state.lastWarningPublishedTs.isNone = true
      · have hsome : state.lastWarningPublishedTs.isSome = false := by
          rw [Option.isNone_iff_eq_none.mp hnone]
          rfl
        rw [hsome] at h
        cases hcritical : state.lastCriticalPublishedTs.isSome with
        | true =>
            -- the alarm is critical already
            rw [hcritical] at h
            have hlevels : e.warningLevels channelId state.firstAnomalyTs now = [] := by
              refine if_neg fun hnew => ?_
              rw [h] at hnew
              exact Option.some_ne_none _ hnew.1
            have hrun : e.publishWarning channelId state now wall =
                (e, { state with lastWarningPublishedTs := some now }, []) := by
              rw [publishWarning, if_pos ⟨hlong, hnone⟩]
              simp only [publish_again h (.inl rfl)]
            rw [hlevels, hrun]
            exact ⟨.refl, rfl, rfl, rfl, hcritical, h, rfl, rfl⟩
        | false =>
            rw [hcritical] at h
            obtain ⟨m', event, hpublish, hpublication⟩ := publish_new .warning
              (now - state.firstAnomalyTs)
              (e.message channelId (now - state.firstAnomalyTs)) wall h
            cases hcooldown : e.withinCooldown channelId now with
            | true =>
                have hlevels : e.warningLevels channelId state.firstAnomalyTs now = [] := by
                  refine if_neg fun hnew => ?_
                  exact Bool.eq_false_iff.mp hnew.2.2 hcooldown
                have hrun : e.publishWarning channelId state now wall =
                    ({ e with alarmPublisher := m' },
                      { state with lastWarningPublishedTs := some now }, []) := by
                  rw [publishWarning, if_pos ⟨hlong, hnone⟩]
                  simp only [hpublish]
                  exact if_pos hcooldown
                rw [hlevels, hrun]
                exact ⟨elsewhere_published hpublication.others, rfl, rfl, rfl, hcritical,
                  hpublication.alarm, rfl, rfl⟩
            | false =>
                have hlevels : e.warningLevels channelId state.firstAnomalyTs now = ["WARNING"] :=
                  if_pos ⟨h, hdue, hcooldown⟩
                have hrun : e.publishWarning channelId state now wall =
                    ((notify { e with alarmPublisher := m' } channelId now event).1,
                      { state with lastWarningPublishedTs := some now }, [event]) := by
                  rw [publishWarning, if_pos ⟨hlong, hnone⟩]
                  simp only [hpublish]
                  exact if_neg (Bool.eq_false_iff.mp hcooldown)
                rw [hlevels, hrun]
                exact ⟨(elsewhere_published hpublication.others).trans (elsewhere_notify event),
                  rfl, rfl, rfl, hcritical, hpublication.alarm, congrArg (· :: []) hpublication.named,
                  Dict.get?_set_self _ _ _⟩
      · -- published before
        have hsome : state.lastWarningPublishedTs.isSome = true :=
          isSome_of_not_isNone hnone
        have hlevels : e.warningLevels channelId state.firstAnomalyTs now = [] := by
          refine if_neg fun hnew => ?_
          rw [h, hsome, alarmFor] at hnew
          split at hnew <;> exact Option.some_ne_none _ hnew.1
        have hrun : e.publishWarning channelId state now wall = (e, state, []) :=
          if_neg fun hnew => hnone hnew.2
        have hkept := publishes_nothing now h
        rw [hsome] at hkept
        rw [hlevels, hrun]
        exact hkept

theorem publishCritical_publishes (h : e.alarm channelId = alarmFor channelId
      state.lastWarningPublishedTs.isSome state.lastCriticalPublishedTs.isSome) :
    Publishes e channelId state now state.lastWarningPublishedTs.isSome
      (state.lastCriticalPublishedTs.isSome ||
        e.criticalDue state.firstAnomalyTs now state.currentStatus)
      (e.criticalLevels channelId state.firstAnomalyTs now state.currentStatus)
      (e.publishCritical channelId state now wall) := by
  cases hdue : e.criticalDue state.firstAnomalyTs now state.currentStatus with
  | false =>
      have hlevels : e.criticalLevels channelId state.firstAnomalyTs now state.currentStatus = [] :=
        if_neg fun hnew => Bool.eq_false_iff.mp hdue hnew.2
      have hrun : e.publishCritical channelId state now wall = (e, state, []) := by
        refine if_neg fun hnew => Bool.eq_false_iff.mp hdue ?_
        exact Bool.and_eq_true_iff.mpr ⟨decide_eq_true hnew.1, decide_eq_true hnew.2.1⟩
      rw [hlevels, hrun, Bool.or_false]
      exact publishes_nothing now h
  | true =>
      obtain ⟨hlong, hstatus⟩ := Bool.and_eq_true_iff.mp hdue
      rw [Bool.or_true]
      by_cases hnone : state.lastCriticalPublishedTs.isNone = true
      · have hsome : state.lastCriticalPublishedTs.isSome = false := by
          rw [Option.isNone_iff_eq_none.mp hnone]
          rfl
        rw [hsome] at h
        have hpublish : ∃ m' event, e.alarmPublisher.publishDiagnosticAlarm channelId .critical
            (now - state.firstAnomalyTs) (e.message channelId (now - state.firstAnomalyTs)) wall =
              (m', some event) ∧
            Publication e.alarmPublisher channelId "CRITICAL" m' event := by
          cases hwarned : state.lastWarningPublishedTs.isSome with
          | true =>
              rw [hwarned] at h
              exact publish_upgrade _ _ _ h
          | false =>
              rw [hwarned] at h
              exact publish_new _ _ _ _ h
        have hlevels : e.criticalLevels channelId state.firstAnomalyTs now state.currentStatus =
            ["CRITICAL"] := by
          refine if_pos ⟨fun hcritical => ?_, hdue⟩
          rw [h, alarmFor] at hcritical
          cases hwarned : state.lastWarningPublishedTs.isSome with
          | true =>
              rw [hwarned] at hcritical
              exact absurd (congrArg (·.map Prod.snd) hcritical) (by simp)
          | false =>
              rw [hwarned] at hcritical
              cases hcritical
        obtain ⟨m', event, hpublish, hpublication⟩ := hpublish
        have hrun : e.publishCritical channelId state now wall =
            ((notify { e with alarmPublisher := m' } channelId now event).1,
              { state with lastCriticalPublishedTs := some now }, [event]) := by
          rw [publishCritical,
            if_pos ⟨of_decide_eq_true hlong, of_decide_eq_true hstatus, hnone⟩]
          simp only [hpublish]
          rfl
        rw [hlevels, hrun]
        exact ⟨(elsewhere_published hpublication.others).trans (elsewhere_notify event), rfl, rfl,
          rfl, rfl, hpublication.alarm, congrArg (· :: []) hpublication.named,
          Dict.get?_set_self _ _ _⟩
      · -- published before
        have hsome : state.lastCriticalPublishedTs.isSome = true :=
          isSome_of_not_isNone hnone
        have hlevels : e.criticalLevels channelId state.firstAnomalyTs now state.currentStatus =
            [] := by
          refine if_neg fun hnew => hnew.1 ?_
          rw [h, hsome]
          rfl
        have hrun : e.publishCritical channelId state now wall = (e, state, []) :=
          if_neg fun hnew => hnone hnew.2.2
        have hkept := publishes_nothing now h
        rw [hsome] at hkept
        rw [hlevels, hrun]
        exact hkept

end SensorDiagnosticsEngine

/-- Some result of a stretch comes a duration after the first one. -/
def lasted (duration : Float) (counts : HealthStatus → Bool) :
    List (Float × HealthStatus) → Bool
  | [] => false
  | first :: rest =>
      (first :: rest).any fun r => counts r.2 && decide (duration ≤ r.1 - first.1)

/-- The time of the first result of a stretch with one more. -/
def firstOf (L : List (Float × HealthStatus)) (x : Float × HealthStatus) : Float :=
  (L.head?.getD x).1

theorem lasted_snoc (duration : Float) (counts : HealthStatus → Bool)
    (L : List (Float × HealthStatus)) (x : Float × HealthStatus) :
    lasted duration counts (L ++ [x]) = (lasted duration counts L ||
      counts x.2 && decide (duration ≤ x.1 - firstOf L x)) := by
  cases L with
  | nil =>
      rw [List.nil_append, lasted, lasted, List.any_cons, List.any_nil, Bool.or_false,
        Bool.false_or]
      rfl
  | cons first rest =>
      have hone (counted : Float × HealthStatus → Bool) : [x].any counted = counted x :=
        Bool.or_false _
      rw [List.cons_append, lasted, lasted, ← List.cons_append, List.any_append, hone]
      rfl

/-- A stretch with one more result: an `ok` ends it. -/
def extend (L : List (Float × HealthStatus)) (x : Float × HealthStatus) :
    List (Float × HealthStatus) :=
  if x.2 = .ok then [] else L ++ [x]

/-- A stretch has been anomalous for the warning's duration. -/
def DiagnosticSettings.warned (settings : DiagnosticSettings) (L : List (Float × HealthStatus)) :
    Bool :=
  lasted settings.warningDurationS (fun _ => true) L

/-- A stretch has been critical after the critical alarm's duration. -/
def DiagnosticSettings.severe (settings : DiagnosticSettings) (L : List (Float × HealthStatus)) :
    Bool :=
  lasted settings.criticalDurationS (fun status => decide (status = .critical)) L

namespace SensorDiagnosticsEngine

variable {e e' : SensorDiagnosticsEngine} {now : Float} {status : HealthStatus}

theorem warned_snoc (e : SensorDiagnosticsEngine) (L : List (Float × HealthStatus))
    (x : Float × HealthStatus) :
    e.settings.warned (L ++ [x]) = (e.settings.warned L || e.warningDue (firstOf L x) x.1) := by
  rw [DiagnosticSettings.warned, lasted_snoc, Bool.true_and]
  rfl

theorem severe_snoc (e : SensorDiagnosticsEngine) (L : List (Float × HealthStatus))
    (x : Float × HealthStatus) :
    e.settings.severe (L ++ [x]) = (e.settings.severe L || e.criticalDue (firstOf L x) x.1 x.2) := by
  rw [DiagnosticSettings.severe, lasted_snoc, Bool.and_comm]
  rfl

/-- The memories of a channel agree with its stretch. -/
structure Tracks (e : SensorDiagnosticsEngine) (channelId : String)
    (L : List (Float × HealthStatus)) : Prop where
  anomaly : ∀ first, L.head? = some first → ∃ state,
    e.anomalyState.get? channelId = some state ∧ state.firstAnomalyTs = first.1 ∧
      state.lastWarningPublishedTs.isSome = e.settings.warned L ∧
      state.lastCriticalPublishedTs.isSome = e.settings.severe L
  ended : L = [] → e.anomalyState.get? channelId = none
  alarm : e.alarm channelId = alarmFor channelId (e.settings.warned L) (e.settings.severe L)

theorem Tracks.openAnomaly {L : List (Float × HealthStatus)} (h : Tracks e channelId L)
    (status : HealthStatus) (now : Float) :
    (e.openAnomaly channelId status now).firstAnomalyTs = firstOf L (now, status) ∧
      (e.openAnomaly channelId status now).currentStatus = status ∧
      (e.openAnomaly channelId status now).lastWarningPublishedTs.isSome = e.settings.warned L ∧
      (e.openAnomaly channelId status now).lastCriticalPublishedTs.isSome = e.settings.severe L := by
  rw [SensorDiagnosticsEngine.openAnomaly]
  cases L with
  | nil =>
      rw [h.ended rfl]
      exact ⟨rfl, rfl, rfl, rfl⟩
  | cons first rest =>
      obtain ⟨state, hget, hfirst, hwarned, hsevere⟩ := h.anomaly first rfl
      rw [hget]
      exact ⟨hfirst, rfl, hwarned, hsevere⟩

theorem warned_congr (h : e'.settings = e.settings) (L : List (Float × HealthStatus)) :
    e'.settings.warned L = e.settings.warned L := by
  rw [h]

theorem severe_congr (h : e'.settings = e.settings) (L : List (Float × HealthStatus)) :
    e'.settings.severe L = e.settings.severe L := by
  rw [h]

theorem alarmFor_eq_none {warning critical : Bool} :
    alarmFor channelId warning critical = none ↔ warning = false ∧ critical = false := by
  cases critical <;> cases warning <;> simp [alarmFor]

theorem alarmFor_eq_critical {warning critical : Bool} :
    alarmFor channelId warning critical = some (diagnosticId channelId, "CRITICAL") ↔
      critical = true := by
  cases critical <;> cases warning <;> simp [alarmFor]

/-- The levels of the events that a call returns for a channel. -/
def returnedLevels (e e' : SensorDiagnosticsEngine) (channelId : String) (first now : Float) :
    List String :=
  e.warningLevels channelId first now ++
    if e.alarm channelId ≠ some (diagnosticId channelId, "CRITICAL") ∧
      e'.alarm channelId = some (diagnosticId channelId, "CRITICAL") then ["CRITICAL"] else []

structure Follows (e e' : SensorDiagnosticsEngine) (channelId : String)
    (L : List (Float × HealthStatus)) (x : Float × HealthStatus) (returned : List Event) :
    Prop where
  tracks : Tracks e' channelId (extend L x)
  events : returned.map named =
    (if x.2 = .ok then [] else e.returnedLevels e' channelId (firstOf L x) x.1).map
      fun level => (diagnosticId channelId, level)
  notified : e'.channelLastNotified.get? channelId =
    if returned = [] then e.channelLastNotified.get? channelId else some x.1

theorem Tracks.trackAnomaly {L : List (Float × HealthStatus)} (h : Tracks e channelId L)
    (hstatus : status ≠ .ok) (now : Float) (wall : Clock) :
    Elsewhere e (e.trackAnomaly channelId status now wall).1 channelId ∧
      Follows e (e.trackAnomaly channelId status now wall).1 channelId L (now, status)
        (e.trackAnomaly channelId status now wall).2 := by
  obtain ⟨hfirst, hcurrent, hwarned, hsevere⟩ := h.openAnomaly status now
  rw [SensorDiagnosticsEngine.trackAnomaly]
  generalize e.openAnomaly channelId status now = opened at hfirst hcurrent hwarned hsevere
  have hwarning : Publishes e channelId opened now
      (opened.lastWarningPublishedTs.isSome || e.warningDue opened.firstAnomalyTs now)
      opened.lastCriticalPublishedTs.isSome (e.warningLevels channelId opened.firstAnomalyTs now)
      (e.publishWarning channelId opened now wall) :=
    publishWarning_publishes (by rw [h.alarm, hwarned, hsevere])
  generalize e.publishWarning channelId opened now wall = first at hwarning
  have hcritical : Publishes first.1 channelId first.2.1 now
      first.2.1.lastWarningPublishedTs.isSome
      (first.2.1.lastCriticalPublishedTs.isSome ||
        first.1.criticalDue first.2.1.firstAnomalyTs now first.2.1.currentStatus)
      (first.1.criticalLevels channelId first.2.1.firstAnomalyTs now first.2.1.currentStatus)
      (first.1.publishCritical channelId first.2.1 now fun i => wall (i + 1)) :=
    publishCritical_publishes (by rw [hwarning.alarm, hwarning.warned, hwarning.critical])
  generalize first.1.publishCritical channelId first.2.1 now (fun i => wall (i + 1)) = second
    at hcritical
  have hsettings : first.1.settings = e.settings := hwarning.elsewhere.settings
  have hsettings₂ : second.1.settings = e.settings :=
    hcritical.elsewhere.settings.trans hsettings
  have hextend : extend L (now, status) = L ++ [(now, status)] := if_neg hstatus
  have hfirst₂ : second.2.1.firstAnomalyTs = firstOf L (now, status) :=
    (hcritical.first.trans hwarning.first).trans hfirst
  have hwarned₂ : second.2.1.lastWarningPublishedTs.isSome = e.settings.warned (L ++ [(now, status)]) := by
    rw [hcritical.warned, hwarning.warned, hwarned, hfirst, warned_snoc]
  have hsevere₂ : second.2.1.lastCriticalPublishedTs.isSome = e.settings.severe (L ++ [(now, status)]) := by
    rw [hcritical.critical, hwarning.critical, hsevere, hwarning.first, hfirst, hwarning.current,
      hcurrent, severe_snoc, criticalDue, hsettings]
    rfl
  have halarm₂ : second.1.alarm channelId =
      alarmFor channelId (e.settings.warned (L ++ [(now, status)])) (e.settings.severe (L ++ [(now, status)])) := by
    rw [hcritical.alarm, ← hcritical.critical, ← hcritical.warned, hwarned₂, hsevere₂]
  have hevents : (first.2.2 ++ second.2.2).map named =
      (e.returnedLevels { second.1 with
        anomalyState := second.1.anomalyState.set channelId second.2.1 } channelId
          (firstOf L (now, status)) now).map fun level => (diagnosticId channelId, level) := by
    have hupgrade : first.1.alarm channelId ≠ some (diagnosticId channelId, "CRITICAL") ∧
        first.1.criticalDue first.2.1.firstAnomalyTs now first.2.1.currentStatus = true ↔
        e.alarm channelId ≠ some (diagnosticId channelId, "CRITICAL") ∧
          second.1.alarm channelId = some (diagnosticId channelId, "CRITICAL") := by
      rw [hwarning.alarm, h.alarm, hcritical.alarm, ne_eq, ne_eq, alarmFor_eq_critical,
        alarmFor_eq_critical, alarmFor_eq_critical, hwarning.critical, hsevere]
      cases e.settings.severe L <;> simp
    rw [List.map_append, hwarning.events, hcritical.events, returnedLevels, List.map_append, hfirst,
      criticalLevels, if_congr hupgrade rfl rfl]
    rfl
  refine ⟨⟨hsettings₂, hcritical.elsewhere.started.trans hwarning.elsewhere.started,
      fun other hne => ?_, fun other hne => ?_, fun other hne => ?_⟩,
    ⟨⟨fun x hhead => ?_, fun hnil => ?_, ?_⟩, ?_, ?_⟩⟩
  · exact (Dict.get?_set_of_ne _ _ hne).trans
      ((hwarning.elsewhere.trans hcritical.elsewhere).anomalies other hne)
  · exact (hwarning.elsewhere.trans hcritical.elsewhere).notified other hne
  · exact (hwarning.elsewhere.trans hcritical.elsewhere).alarms other hne
  · rw [hextend] at hhead ⊢
    have hx : x.1 = firstOf L (now, status) := by
      cases L with
      | nil => exact congrArg Prod.fst (Option.some.inj hhead).symm
      | cons y rest => exact congrArg Prod.fst (Option.some.inj hhead).symm
    refine ⟨second.2.1, Dict.get?_set_self _ _ _, hfirst₂.trans hx.symm, ?_, ?_⟩
    · rw [hwarned₂]
      exact (warned_congr hsettings₂ _).symm
    · rw [hsevere₂]
      exact (severe_congr hsettings₂ _).symm
  · rw [hextend] at hnil
    exact absurd hnil (List.append_ne_nil_of_right_ne_nil L (List.cons_ne_nil _ _))
  · rw [hextend]
    exact halarm₂.trans (congrArg₂ (alarmFor channelId) (warned_congr hsettings₂ _).symm
      (severe_congr hsettings₂ _).symm)
  · rw [hevents, if_neg hstatus]
  · change second.1.channelLastNotified.get? channelId = _
    rw [hcritical.notified_eq, hwarning.notified_eq]
    cases second.2.2 with
    | nil => rw [List.append_nil, if_pos rfl]
    | cons event rest =>
        rw [if_neg (List.cons_ne_nil _ _),
          if_neg (List.append_ne_nil_of_right_ne_nil _ (List.cons_ne_nil _ _))]

theorem Tracks.trackOk {L : List (Float × HealthStatus)} (h : Tracks e channelId L) (now : Float)
    (wall : Clock) : Elsewhere e (e.trackOk channelId wall) channelId ∧
      Follows e (e.trackOk channelId wall) channelId L (now, .ok) [] := by
  have hextend : extend L (now, .ok) = [] := if_pos rfl
  cases L with
  | nil =>
      have hrun : e.trackOk channelId wall = e := by
        rw [SensorDiagnosticsEngine.trackOk, h.ended rfl]
      rw [hrun]
      exact ⟨.refl, hextend ▸ h, rfl, rfl⟩
  | cons first rest =>
      obtain ⟨state, hget, _, hwarned, hsevere⟩ := h.anomaly first rfl
      have hcleared : alarmOf (if state.lastWarningPublishedTs.isSome ||
          state.lastCriticalPublishedTs.isSome then
            e.alarmPublisher.clearDiagnosticAlarm channelId wall else e.alarmPublisher) channelId =
          none := by
        split
        case isTrue => rw [clear_alarmOf, if_pos rfl]
        case isFalse hmarks =>
          rw [hwarned, hsevere, Bool.not_eq_true, Bool.or_eq_false_iff] at hmarks
          exact h.alarm.trans (alarmFor_eq_none.mpr hmarks)
      have hothers (other : String) (hne : other ≠ channelId) :
          alarmOf (if state.lastWarningPublishedTs.isSome ||
            state.lastCriticalPublishedTs.isSome then
              e.alarmPublisher.clearDiagnosticAlarm channelId wall else e.alarmPublisher) other =
            e.alarm other := by
        split
        case isTrue => exact clear_alarmOf.trans (if_neg hne)
        case isFalse => rfl
      rw [SensorDiagnosticsEngine.trackOk, hget]
      refine ⟨⟨rfl, rfl, fun other hne => ?_, fun _ _ => rfl, hothers⟩,
        ⟨hextend ▸ ⟨fun _ hhead => ?_, fun _ => ?_, ?_⟩, rfl, rfl⟩⟩
      · exact (Dict.get?_erase _ _ _).trans (if_neg hne)
      · cases hhead
      · exact (Dict.get?_erase _ _ _).trans (if_pos rfl)
      · exact hcleared

theorem Tracks.track {L : List (Float × HealthStatus)} (h : Tracks e channelId L) (now : Float)
    (wall : String → Clock) (healthScore : ℤ) :
    Elsewhere e (e.track now wall channelId healthScore).1 channelId ∧
      Follows e (e.track now wall channelId healthScore).1 channelId L
        (now, healthToStatus healthScore) (e.track now wall channelId healthScore).2 := by
  rw [SensorDiagnosticsEngine.track]
  by_cases hok : healthToStatus healthScore = .ok
  · rw [if_pos hok, hok]
    exact h.trackOk now (wall channelId)
  · rw [if_neg hok]
    exact h.trackAnomaly hok now (wall channelId)

end SensorDiagnosticsEngine
end Alarms
end CryoDaq
