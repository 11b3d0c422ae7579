import CryoDaq.Alarms.Identity
import CryoDaq.Alarms.VacuumGuard
import CryoDaq.Python.FloatOrder

/-!
# What makes the vacuum guard fire

**One tick.**  `Turn` says what the rules of one tick do when the two bands are
the right way round: the arming threshold is not above the disarming one, the
clearing pressure not above the firing one.

**Runs.**  The time that a guard counts began at a tick, and at every tick with
both readings since then the pressure was above the threshold and the
temperature not warm.  The alarm is active exactly while the guard has fired.
-/

namespace CryoDaq
namespace Alarms

/-- The two bands are the right way round. -/
structure VacuumConfig.Banded (cfg : VacuumConfig) : Prop where
  temperature : ¬ cfg.disarmThresholdK < cfg.armThresholdK
  pressure : ¬ cfg.firePressure < cfg.clearPressure

namespace VacuumGuard

/-- The guard judges the pressure: it is armed, also by this very reading. -/
def Watching (cfg : VacuumConfig) (g : VacuumGuard) (temperature : Float) : Prop :=
  g.state = .armed ∨ g.state = .disarmed ∧ temperature < cfg.armThresholdK

theorem Watching.ne_fired {cfg : VacuumConfig} {g : VacuumGuard} {temperature : Float}
    (h : g.Watching cfg temperature) : g.state ≠ .fired := by
  intro hfired
  rcases h with h | ⟨h, _⟩
  · rw [hfired] at h
    cases h
  · rw [hfired] at h
    cases h

/-- What the rules of one tick do. -/
inductive Turn (cfg : VacuumConfig) (temperature pressure : Float) (monotonic : ℕ → Float)
    (g g' : VacuumGuard) : Prop
  | warm (warm : cfg.disarmThresholdK ≤ temperature) (after : g' = {})
  | mild (mild : ¬ cfg.disarmThresholdK ≤ temperature) (was : g.state = .disarmed)
      (after : g' = g)
  | holds (mild : ¬ cfg.disarmThresholdK ≤ temperature) (was : g.state = .fired)
      (after : g' = g)
  | recovered (mild : ¬ cfg.disarmThresholdK ≤ temperature) (was : g.state = .fired)
      (good : pressure < cfg.clearPressure)
      (after : g' = { state := .armed, sustainedSince := none })
  | quiet (mild : ¬ cfg.disarmThresholdK ≤ temperature) (watching : g.Watching cfg temperature)
      (after : g' = { state := .armed, sustainedSince := none })
  | counts (mild : ¬ cfg.disarmThresholdK ≤ temperature) (watching : g.Watching cfg temperature)
      (bad : cfg.firePressure < pressure)
      (after : g' = { state := .armed, sustainedSince := g.sustainedSince.getD (monotonic 0) })
  | fires (mild : ¬ cfg.disarmThresholdK ≤ temperature) (watching : g.Watching cfg temperature)
      (bad : cfg.firePressure < pressure) (k : ℕ) (once : k ≤ 1)
      (long : cfg.sustainedS ≤ monotonic k - g.sustainedSince.getD (monotonic 0))
      (after : g' = { state := .fired, sustainedSince := g.sustainedSince.getD (monotonic 0) })

section Turns

variable {cfg : VacuumConfig} {temperature pressure : Float} {monotonic : ℕ → Float}
  {g : VacuumGuard}

theorem judgePressure_armed (hmild : ¬ cfg.disarmThresholdK ≤ temperature)
    (hwatching : g.Watching cfg temperature) :
    Turn cfg temperature pressure monotonic g
      (judgePressure cfg { g with state := .armed } pressure monotonic) := by
  unfold judgePressure
  by_cases hbad : pressure > cfg.firePressure
  · simp only [hbad, if_true]
    unfold judge
    by_cases hlong : (if g.sustainedSince.isNone then monotonic 1 else monotonic 0) -
        g.sustainedSince.getD (monotonic 0) ≥ cfg.sustainedS
    · simp only [hlong, if_true]
      by_cases hnone : g.sustainedSince.isNone = true
      · rw [if_pos hnone] at hlong
        exact .fires hmild hwatching hbad 1 (Nat.le_refl 1) hlong rfl
      · rw [if_neg hnone] at hlong
        exact .fires hmild hwatching hbad 0 (Nat.zero_le 1) hlong rfl
    · simp only [hlong, if_false]
      exact .counts hmild hwatching hbad rfl
  · simp only [hbad, if_true, if_false]
    exact .quiet hmild hwatching rfl

theorem transition_turn (hcfg : cfg.Banded) (g : VacuumGuard) :
    Turn cfg temperature pressure monotonic g
      (g.transition cfg temperature pressure monotonic) := by
  unfold transition
  by_cases hwarm : cfg.disarmThresholdK ≤ temperature
  · have hdisarm : g.disarmWarm cfg temperature = {} := if_pos hwarm
    have hcold : ¬ temperature < cfg.armThresholdK := fun hcold =>
      hcfg.temperature (Binary64.lt_of_le_of_lt hwarm hcold)
    have harm : armCold cfg {} temperature = {} := if_neg fun h => hcold h.2
    rw [hdisarm, harm]
    exact .warm hwarm rfl
  · have hdisarm : g.disarmWarm cfg temperature = g := if_neg hwarm
    rw [hdisarm]
    obtain ⟨state, since⟩ := g
    cases state with
    | disarmed =>
        by_cases hcold : temperature < cfg.armThresholdK
        · have harm : armCold cfg ⟨.disarmed, since⟩ temperature = ⟨.armed, since⟩ :=
            if_pos ⟨rfl, hcold⟩
          rw [harm]
          exact judgePressure_armed (g := ⟨.disarmed, since⟩) hwarm (.inr ⟨rfl, hcold⟩)
        · have harm : armCold cfg ⟨.disarmed, since⟩ temperature = ⟨.disarmed, since⟩ :=
            if_neg fun h => hcold h.2
          rw [harm]
          exact .mild hwarm rfl rfl
    | armed => exact judgePressure_armed (g := ⟨.armed, since⟩) hwarm (.inl rfl)
    | fired =>
        have harm : armCold cfg ⟨.fired, since⟩ temperature = ⟨.fired, since⟩ :=
          if_neg fun h => by cases h.1
        rw [harm]
        by_cases hgood : pressure < cfg.clearPressure
        · have hrecover : recover cfg ⟨.fired, since⟩ pressure = ⟨.armed, none⟩ :=
            if_pos ⟨rfl, hgood⟩
          have hlow : ¬ pressure > cfg.firePressure := fun hbad =>
            hcfg.pressure (Binary64.lt_trans hbad hgood)
          rw [hrecover]
          refine .recovered hwarm rfl hgood ?_
          unfold judgePressure
          rw [if_pos rfl, if_neg hlow]
        · have hrecover : recover cfg ⟨.fired, since⟩ pressure = ⟨.fired, since⟩ :=
            if_neg fun h => hgood h.2
          rw [hrecover]
          exact .holds hwarm rfl rfl

end Turns

end VacuumGuard

section Manager

variable (s : AlarmStateManager) (clock : Clock)

theorem active_of_event {e : Event} (h : e.evaluatorError = false) :
    ((s.process vacuumGuardId (some e) {} clock).1.active.get? vacuumGuardId).isSome = true := by
  unfold AlarmStateManager.process
  simp only [h, Bool.false_eq_true, if_false]
  cases hget : s.active.get? vacuumGuardId with
  | none =>
      simp [AlarmStateManager.raise, AlarmStateManager.activate,
        AlarmStateManager.markActiveMutation]
  | some held =>
      simp only [Option.isSome_some, if_true, AlarmStateManager.markError, hget]
      split
      · simp [hget]
      · simp [AlarmStateManager.amend, AlarmStateManager.markActiveMutation]

theorem inactive_of_none :
    (s.process vacuumGuardId none {} clock).1.active.get? vacuumGuardId = none := by
  unfold AlarmStateManager.process AlarmStateManager.settle
  cases hget : s.active.get? vacuumGuardId with
  | none => simp [hget]
  | some held =>
      simp [hget, AlarmStateManager.deactivate, AlarmStateManager.markActiveMutation]

end Manager

section Runs

variable (message reason : VacuumConfig → Float → Float → String) (cfg : VacuumConfig)
  (escalate : Bool)

/-- The worlds that ticks lead to.  Between two ticks others may use the
manager, as long as they neither raise nor clear the alarm of the guard. -/
inductive VacuumRun : List VacuumTick → VacuumWorld → Prop
  | start (manager : AlarmStateManager) (inactive : manager.active.get? vacuumGuardId = none) :
      VacuumRun [] (.start manager)
  | tick {ticks : List VacuumTick} {w : VacuumWorld} (t : VacuumTick) :
      VacuumRun ticks w →
      VacuumRun (ticks ++ [t]) (w.tick message reason cfg escalate t)
  | elsewhere {ticks : List VacuumTick} {w : VacuumWorld} (manager : AlarmStateManager)
      (same : (manager.active.get? vacuumGuardId).isSome =
        (w.manager.active.get? vacuumGuardId).isSome) :
      VacuumRun ticks w → VacuumRun ticks { w with manager }

/-- A tick that, with both readings, saw a high pressure and no warmth. -/
def VacuumTick.Exceeds (t : VacuumTick) : Prop :=
  ∀ temperature pressure, t.reading cfg.refTempCh = some temperature →
    t.reading cfg.pressureCh = some pressure →
    cfg.firePressure < pressure ∧ ¬ cfg.disarmThresholdK ≤ temperature

/-- Since a tick with both readings at `since` nothing spoke against firing. -/
def Exceeded (ticks : List VacuumTick) (since : Float) : Prop :=
  ∃ before first later, ticks = before ++ first :: later ∧ first.monotonic 0 = since ∧
    (first.reading cfg.refTempCh).isSome = true ∧ (first.reading cfg.pressureCh).isSome = true ∧
    ∀ u ∈ first :: later, u.Exceeds cfg

variable {message reason cfg escalate}

theorem Exceeded.next {ticks : List VacuumTick} {since : Float} {t : VacuumTick}
    (h : Exceeded cfg ticks since) (ht : t.Exceeds cfg) : Exceeded cfg (ticks ++ [t]) since := by
  obtain ⟨before, first, later, hticks, hsince, htemp, hpress, hall⟩ := h
  refine ⟨before, first, later ++ [t], by simp [hticks], hsince, htemp, hpress, ?_⟩
  intro u hu
  rcases List.mem_append.mp (List.cons_append ▸ hu) with hu | hu
  · exact hall u hu
  · exact List.mem_singleton.mp hu ▸ ht

theorem Exceeded.first {ticks : List VacuumTick} {t : VacuumTick}
    (htemp : (t.reading cfg.refTempCh).isSome = true)
    (hpress : (t.reading cfg.pressureCh).isSome = true) (ht : t.Exceeds cfg) :
    Exceeded cfg (ticks ++ [t]) (t.monotonic 0) :=
  ⟨ticks, t, [], rfl, rfl, htemp, hpress, fun _ hu => List.mem_singleton.mp hu ▸ ht⟩

structure Guarded (cfg : VacuumConfig) (ticks : List VacuumTick) (w : VacuumWorld) : Prop where
  disarmed : w.guard.state = .disarmed → w.guard.sustainedSince = none
  armed : w.guard.state = .armed → ∀ since, w.guard.sustainedSince = some since →
    Exceeded cfg ticks since
  alarm : (w.manager.active.get? vacuumGuardId).isSome = true ↔ w.guard.state = .fired

section Tick

variable {w : VacuumWorld} {t : VacuumTick}

theorem tick_skip (h : t.reading cfg.refTempCh = none ∨ t.reading cfg.pressureCh = none) :
    w.tick message reason cfg escalate t = w.skip t := by
  unfold VacuumWorld.tick
  rcases h with h | h
  · rw [h]
  · cases ht : t.reading cfg.refTempCh with
    | none => rfl
    | some temperature => rw [h]

theorem tick_evaluate {temperature pressure : Float}
    (htemp : t.reading cfg.refTempCh = some temperature)
    (hpress : t.reading cfg.pressureCh = some pressure) :
    w.tick message reason cfg escalate t =
      w.evaluate message reason cfg escalate t temperature pressure := by
  unfold VacuumWorld.tick
  rw [htemp, hpress]

theorem readings_cases (cfg : VacuumConfig) (t : VacuumTick) :
    (t.reading cfg.refTempCh = none ∨ t.reading cfg.pressureCh = none) ∨
    ∃ temperature pressure, t.reading cfg.refTempCh = some temperature ∧
      t.reading cfg.pressureCh = some pressure := by
  cases ht : t.reading cfg.refTempCh with
  | none => exact .inl (.inl rfl)
  | some temperature =>
      cases hp : t.reading cfg.pressureCh with
      | none => exact .inl (.inr rfl)
      | some pressure => exact .inr ⟨temperature, pressure, rfl, rfl⟩

theorem skip_guard : (w.skip t).guard = w.guard := by
  unfold VacuumWorld.skip
  split <;> rfl

theorem skip_latched : (w.skip t).latched = w.latched := by
  unfold VacuumWorld.skip
  split <;> rfl

theorem exceeds_of_skip (h : t.reading cfg.refTempCh = none ∨ t.reading cfg.pressureCh = none) :
    t.Exceeds cfg := by
  intro temperature pressure htemp hpress
  rcases h with h | h
  · rw [h] at htemp
    cases htemp
  · rw [h] at hpress
    cases hpress

theorem exceeds_of_readings {temperature pressure : Float}
    (htemp : t.reading cfg.refTempCh = some temperature)
    (hpress : t.reading cfg.pressureCh = some pressure)
    (hbad : cfg.firePressure < pressure) (hmild : ¬ cfg.disarmThresholdK ≤ temperature) :
    t.Exceeds cfg := by
  intro temperature' pressure' htemp' hpress'
  rw [htemp] at htemp'
  rw [hpress] at hpress'
  cases htemp'
  cases hpress'
  exact ⟨hbad, hmild⟩

theorem evaluate_alarm (temperature pressure : Float) :
    ((w.evaluate message reason cfg escalate t temperature pressure).manager.active.get?
      vacuumGuardId).isSome = true ↔
    (w.evaluate message reason cfg escalate t temperature pressure).guard.state = .fired := by
  unfold VacuumWorld.evaluate
  by_cases hfired : (w.guard.transition cfg temperature pressure t.monotonic).state = .fired
  · simp only [hfired, if_true, iff_true]
    exact active_of_event _ _ rfl
  · simp only [hfired, if_false, iff_false]
    rw [inactive_of_none]
    decide

theorem Guarded.since {ticks : List VacuumTick} {temperature pressure : Float}
    (hw : Guarded cfg ticks w) (htemp : t.reading cfg.refTempCh = some temperature)
    (hpress : t.reading cfg.pressureCh = some pressure)
    (hwatching : w.guard.Watching cfg temperature) (hbad : cfg.firePressure < pressure)
    (hmild : ¬ cfg.disarmThresholdK ≤ temperature) :
    Exceeded cfg (ticks ++ [t]) (w.guard.sustainedSince.getD (t.monotonic 0)) := by
  have hexceeds := exceeds_of_readings htemp hpress hbad hmild
  cases hsince : w.guard.sustainedSince with
  | none => exact .first (by rw [htemp]; rfl) (by rw [hpress]; rfl) hexceeds
  | some since =>
      rcases hwatching with harmed | ⟨hdisarmed, _⟩
      · exact (hw.armed harmed since hsince).next hexceeds
      · rw [hw.disarmed hdisarmed] at hsince
        cases hsince

theorem Guarded.tick (hcfg : cfg.Banded) {ticks : List VacuumTick} (hw : Guarded cfg ticks w)
    (t : VacuumTick) : Guarded cfg (ticks ++ [t]) (w.tick message reason cfg escalate t) := by
  rcases readings_cases cfg t with hskip | ⟨temperature, pressure, htemp, hpress⟩
  · rw [tick_skip hskip]
    have hguard := skip_guard (w := w) (t := t)
    refine ⟨fun h => ?_, fun h since hsince => ?_, ?_⟩
    · rw [hguard] at h ⊢
      exact hw.disarmed h
    · rw [hguard] at h hsince
      exact (hw.armed h since hsince).next (exceeds_of_skip hskip)
    · rw [hguard]
      unfold VacuumWorld.skip
      by_cases hfired : w.guard.state = .fired
      · rw [if_neg fun h => h hfired]
        exact hw.alarm
      · rw [if_pos hfired, inactive_of_none]
        exact iff_of_false (by decide) hfired
  · rw [tick_evaluate htemp hpress]
    refine ⟨fun h => ?_, fun h since hsince => ?_, evaluate_alarm temperature pressure⟩
    · change (w.guard.transition cfg temperature pressure t.monotonic).state = .disarmed at h
      change (w.guard.transition cfg temperature pressure t.monotonic).sustainedSince = none
      cases VacuumGuard.transition_turn hcfg w.guard with
      | warm _ after => rw [after]
      | mild _ was after =>
          rw [after]
          exact hw.disarmed was
      | holds _ was after =>
          rw [after, was] at h
          cases h
      | recovered _ _ _ after => rw [after]
      | quiet _ _ after => rw [after]
      | counts _ _ _ after =>
          rw [after] at h
          cases h
      | fires _ _ _ _ _ _ after =>
          rw [after] at h
          cases h
    · change (w.guard.transition cfg temperature pressure t.monotonic).state = .armed at h
      change (w.guard.transition cfg temperature pressure t.monotonic).sustainedSince =
        some since at hsince
      cases VacuumGuard.transition_turn hcfg w.guard with
      | warm _ after =>
          rw [after] at h
          cases h
      | mild _ was after =>
          rw [after, was] at h
          cases h
      | holds _ was after =>
          rw [after, was] at h
          cases h
      | recovered _ _ _ after =>
          rw [after] at hsince
          cases hsince
      | quiet _ _ after =>
          rw [after] at hsince
          cases hsince
      | counts hmild hwatching hbad after =>
          rw [after] at hsince
          cases hsince
          exact hw.since htemp hpress hwatching hbad hmild
      | fires _ _ _ _ _ _ after =>
          rw [after] at h
          cases h

theorem run_guarded (hcfg : cfg.Banded) {ticks : List VacuumTick} {w : VacuumWorld}
    (h : VacuumRun message reason cfg escalate ticks w) : Guarded cfg ticks w := by
  induction h with
  | start manager inactive =>
      refine ⟨fun _ => rfl, (fun h => by cases h), ?_⟩
      change (manager.active.get? vacuumGuardId).isSome = true ↔ _
      rw [inactive]
      exact iff_of_false (by decide) (fun h => by cases h)
  | tick t _ ih => exact ih.tick hcfg t
  | elsewhere manager same _ ih =>
      refine ⟨ih.disarmed, ih.armed, ?_⟩
      change (manager.active.get? vacuumGuardId).isSome = true ↔ _
      rw [same]
      exact ih.alarm

end Tick

/-- What a tick shows at which the guard fires: a high pressure at an armed
guard, and the time since which nothing spoke against firing. -/
structure FiresOnEvidence (cfg : VacuumConfig) (ticks : List VacuumTick) (w : VacuumWorld)
    (t : VacuumTick) : Prop where
  pressure : ∃ pressure, t.reading cfg.pressureCh = some pressure ∧ cfg.firePressure < pressure
  armed : w.guard.state = .armed ∨
    ∃ temperature, t.reading cfg.refTempCh = some temperature ∧
      temperature < cfg.armThresholdK
  since : ∃ since k, k ≤ 1 ∧ cfg.sustainedS ≤ t.monotonic k - since ∧
    Exceeded cfg (ticks ++ [t]) since

section Tick

variable {w : VacuumWorld} {t : VacuumTick} {ticks : List VacuumTick}

theorem fires_on_evidence (hcfg : cfg.Banded)
    (h : VacuumRun message reason cfg escalate ticks w) (hwas : w.guard.state ≠ .fired)
    (hfired : (w.tick message reason cfg escalate t).guard.state = .fired) :
    FiresOnEvidence cfg ticks w t := by
  rcases readings_cases cfg t with hskip | ⟨temperature, pressure, htemp, hpress⟩
  · rw [tick_skip hskip, skip_guard] at hfired
    exact absurd hfired hwas
  · rw [tick_evaluate htemp hpress] at hfired
    change (w.guard.transition cfg temperature pressure t.monotonic).state = .fired at hfired
    cases VacuumGuard.transition_turn hcfg w.guard with
    | warm _ after =>
        rw [after] at hfired
        cases hfired
    | mild _ was after =>
        rw [after] at hfired
        exact absurd hfired hwas
    | holds _ was _ => exact absurd was hwas
    | recovered _ was _ _ => exact absurd was hwas
    | quiet _ _ after =>
        rw [after] at hfired
        cases hfired
    | counts _ _ _ after =>
        rw [after] at hfired
        cases hfired
    | fires hmild hwatching hbad k hk hlong after =>
        refine ⟨⟨pressure, hpress, hbad⟩, ?_, ?_⟩
        · rcases hwatching with harmed | ⟨_, hcold⟩
          · exact .inl harmed
          · exact .inr ⟨temperature, htemp, hcold⟩
        · exact ⟨_, k, hk, hlong,
            (run_guarded hcfg h).since htemp hpress hwatching hbad hmild⟩

theorem left_on_recovery (hcfg : cfg.Banded) (hwas : w.guard.state = .fired)
    (hleft : (w.tick message reason cfg escalate t).guard.state ≠ .fired) :
    ∃ temperature pressure, t.reading cfg.refTempCh = some temperature ∧
      t.reading cfg.pressureCh = some pressure ∧
      (cfg.disarmThresholdK ≤ temperature ∨ pressure < cfg.clearPressure) := by
  rcases readings_cases cfg t with hskip | ⟨temperature, pressure, htemp, hpress⟩
  · rw [tick_skip hskip, skip_guard] at hleft
    exact absurd hwas hleft
  · refine ⟨temperature, pressure, htemp, hpress, ?_⟩
    rw [tick_evaluate htemp hpress] at hleft
    change (w.guard.transition cfg temperature pressure t.monotonic).state ≠ .fired at hleft
    cases VacuumGuard.transition_turn hcfg w.guard with
    | warm warm _ => exact .inl warm
    | mild _ was _ =>
        rw [hwas] at was
        cases was
    | holds _ was after =>
        rw [after] at hleft
        exact absurd was hleft
    | recovered _ _ good _ => exact .inr good
    | quiet _ hwatching _ => exact absurd hwas hwatching.ne_fired
    | counts _ hwatching _ _ => exact absurd hwas hwatching.ne_fired
    | fires _ hwatching _ _ _ _ after =>
        rw [after] at hleft
        exact absurd rfl hleft

theorem latched_once (w : VacuumWorld) (t : VacuumTick) :
    (w.tick message reason cfg escalate t).latched.length = w.latched.length +
      if w.guard.state ≠ .fired ∧
        (w.tick message reason cfg escalate t).guard.state = .fired ∧ escalate = true then 1
      else 0 := by
  rcases readings_cases cfg t with hskip | ⟨temperature, pressure, htemp, hpress⟩
  · rw [tick_skip hskip, skip_guard, skip_latched, if_neg fun h => h.1 h.2.1]
    rfl
  · rw [tick_evaluate htemp hpress]
    unfold VacuumWorld.evaluate
    simp only [and_assoc]
    split
    · exact List.length_append
    · rfl

end Tick

/-- **The vacuum guard.**  It fires only on evidence that lasted, stops only on
a warm or a recovered reading, keeps the alarm active exactly while it has
fired, and asks for a fault to be latched once for each firing. -/
theorem vacuum_guard_fires_and_holds (hcfg : cfg.Banded) {ticks : List VacuumTick}
    {w : VacuumWorld} (h : VacuumRun message reason cfg escalate ticks w) (t : VacuumTick) :
    (w.guard.state ≠ .fired → (w.tick message reason cfg escalate t).guard.state = .fired →
      FiresOnEvidence cfg ticks w t) ∧
    (w.guard.state = .fired → (w.tick message reason cfg escalate t).guard.state ≠ .fired →
      ∃ temperature pressure, t.reading cfg.refTempCh = some temperature ∧
        t.reading cfg.pressureCh = some pressure ∧
        (cfg.disarmThresholdK ≤ temperature ∨ pressure < cfg.clearPressure)) ∧
    (((w.tick message reason cfg escalate t).manager.active.get? vacuumGuardId).isSome = true ↔
      (w.tick message reason cfg escalate t).guard.state = .fired) ∧
    (w.tick message reason cfg escalate t).latched.length = w.latched.length +
      if w.guard.state ≠ .fired ∧
        (w.tick message reason cfg escalate t).guard.state = .fired ∧ escalate = true then 1
      else 0 :=
  ⟨fires_on_evidence hcfg h, left_on_recovery hcfg,
    (run_guarded hcfg (VacuumRun.tick t h)).alarm, latched_once w t⟩

end Runs

section Example

/-- A tick at `now` that sees a cold cryostat and a pressure. -/
def coldTick (now pressure : Float) : VacuumTick where
  state := fun channel =>
    if channel = "P" then some { value := pressure }
    else if channel = "T" then some { value := 4.0 }
    else none
  monotonic := fun _ => now
  clock := fun _ => now

/-- The same tick without the temperature. -/
def blindTick (now pressure : Float) : VacuumTick where
  state := fun channel => if channel = "P" then some { value := pressure } else none
  monotonic := fun _ => now
  clock := fun _ => now

def coldCryostat : VacuumConfig where
  pressureCh := "P"
  refTempCh := "T"

theorem coldCryostat_banded : coldCryostat.Banded := ⟨by decide, by decide⟩

def noText (_ : VacuumConfig) (_ _ : Float) : String := ""

theorem vacuum_guard_fires_and_holds_coldCryostat :
    FiresOnEvidence coldCryostat [coldTick 0.0 1.0]
      ((VacuumWorld.start .new).tick noText noText coldCryostat true (coldTick 0.0 1.0))
      (coldTick 31.0 1.0) := by
  have hrun := @VacuumRun.tick noText noText coldCryostat true _ _ (coldTick 0.0 1.0)
    (.start .new rfl)
  exact (vacuum_guard_fires_and_holds coldCryostat_banded hrun (coldTick 31.0 1.0)).1
    (by decide) (by decide)

/-- A low pressure that is read while the temperature is missing is not
noticed. -/
theorem low_pressure_unnoticed :
    ¬ ∀ (cfg : VacuumConfig) (ticks : List VacuumTick) (w : VacuumWorld) (t : VacuumTick),
      cfg.Banded → VacuumRun noText noText cfg true ticks w → w.guard.state ≠ .fired →
      (w.tick noText noText cfg true t).guard.state = .fired →
      ∃ before first later k, ticks ++ [t] = before ++ first :: later ∧
        cfg.sustainedS ≤ t.monotonic k - first.monotonic 0 ∧
        ∀ u ∈ first :: later, ∀ pressure, u.reading cfg.pressureCh = some pressure →
          cfg.firePressure < pressure := by
  intro h
  have hrun := @VacuumRun.tick noText noText coldCryostat true _ _ (blindTick 10.0 0.0)
    (.tick (coldTick 0.0 1.0) (.start .new rfl))
  obtain ⟨before, first, later, k, hticks, hlong, hall⟩ :=
    h coldCryostat _ _ (coldTick 31.0 1.0) coldCryostat_banded hrun (by decide) (by decide)
  have hlow : blindTick 10.0 0.0 ∉ first :: later := by
    intro hmem
    have hbad := hall _ hmem 0.0 rfl
    exact absurd hbad (by decide)
  match before, hticks with
  | [], hticks =>
      injection hticks with hfirst hlater
      exact hlow (hlater ▸ List.mem_cons_of_mem _ List.mem_cons_self)
  | [_], hticks =>
      injection hticks with _ hticks
      injection hticks with hfirst _
      exact hlow (hfirst ▸ List.mem_cons_self)
  | [_, _], hticks =>
      injection hticks with _ hticks
      injection hticks with _ hticks
      injection hticks with hfirst _
      subst hfirst
      have hshort : ¬ coldCryostat.sustainedS ≤ (31.0 : Float) - 31.0 := by decide
      exact hshort hlong
  | _ :: _ :: _ :: rest, hticks =>
      injection hticks with _ hticks
      injection hticks with _ hticks
      injection hticks with _ hticks
      cases rest <;> cases hticks

end Example

end Alarms
end CryoDaq
