import CryoDaq.Cooldown.Alarm

/-!
# Cycles of the cooldown alarm

A run of the cooldown alarm: the calls of the operator and of the engine, and
the parts of the ticks between them.  There is one tick at a time.

**Overtaken ticks.**  A disarm, a phase change away from cooldown or a new arm
overtakes the tick in progress.

**What holds.**  Between ticks an alarm is active exactly in its state
(`Consistent`).  An overtaken tick is `Silent`, and every entry into FIRED asks
the safety manager once, unless it was overtaken (`Firing.Settled`).

**Where it fails.**  `Careful` calls keep all of it; the other calls are an arm
in FIRED and three places where a tick does not look whether it was overtaken.
-/

namespace CryoDaq
namespace Cooldown

open Alarms

/-- A tick that awaits. -/
structure InProgress where
  cycle : ℕ
  point : Point
  overtaken : Bool

structure Firing where
  requests : ℕ
  overtaken : Bool
deriving DecidableEq

/-- The alarm, its tick, the clock and the entries into FIRED, the latest first. -/
structure World where
  alarm : CooldownAlarm := {}
  tick : Option InProgress := none
  now : Timestamp := 0
  firings : List Firing := []

/-- What happens next. -/
inductive Call
  | arm (r : Readings)
  | disarm (clock : Clock)
  | notifyPhaseChange (newPhase : String) (clock : Clock)
  | notifyExperimentFinalized
  | tick (r : Readings)
  | resume (r : Readings)

def Point.isFired : Point → Bool
  | .fired _ => true
  | _ => false

def amendLatest (f : Firing → Firing) : List Firing → List Firing
  | [] => []
  | x :: rest => f x :: rest

namespace World

variable (cfg : Config) (fmt : Formats) (w : World)

def overtake : World :=
  match w.tick with
  | none => w
  | some t =>
      { w with
        tick := some { t with overtaken := true }
        firings :=
          if t.point.isFired then amendLatest (fun f => { f with overtaken := true }) w.firings
          else w.firings }

def settle (cycle : ℕ) (overtaken : Bool) (b : CooldownAlarm) : Turn → World
  | .returns _ => { w with alarm := b, tick := none }
  | .publishes p =>
      { w with
        alarm := b
        tick := some ⟨cycle, p, overtaken⟩
        firings := if p.isFired then ⟨0, overtaken⟩ :: w.firings else w.firings }
  | .latches _ transition =>
      { w with
        alarm := b
        tick := some ⟨cycle, .latching transition, overtaken⟩
        firings := amendLatest (fun f => { f with requests := f.requests + 1 }) w.firings }

/-- Whether a call can come now: the monotonic clock does not go back. -/
def Enabled : Call → Prop
  | .arm r => w.now ≤ r.monotonic
  | .tick r => w.tick = none ∧ w.now ≤ r.monotonic
  | .resume r => w.tick.isSome ∧ w.now ≤ r.monotonic
  | _ => True

def resumed (r : Readings) (t : InProgress) : World :=
  let part := w.alarm.resume cfg fmt r t.cycle t.point
  { w with now := r.monotonic }.settle t.cycle t.overtaken part.1 part.2

def after : Call → World
  | .arm r =>
      let armed := w.alarm.arm cfg r
      let next := { w with alarm := armed.1, now := r.monotonic }
      if armed.2 then next.overtake else next
  | .disarm clock => { w with alarm := w.alarm.disarm clock }.overtake
  | .notifyPhaseChange newPhase clock =>
      let next := { w with alarm := w.alarm.notifyPhaseChange newPhase clock }
      if newPhase = "cooldown" then next else next.overtake
  | .notifyExperimentFinalized => { w with alarm := w.alarm.notifyExperimentFinalized }
  | .tick r =>
      let part := w.alarm.tick cfg fmt r
      { w with now := r.monotonic }.settle w.alarm.cycleGeneration false part.1 part.2
  | .resume r =>
      match w.tick with
      | none => w
      | some t => w.resumed cfg fmt r t

end World

/-- The worlds that calls which meet `C` lead to. -/
inductive Reached (cfg : Config) (fmt : Formats) (C : World → Call → Prop) : World → Prop
  | init : Reached cfg fmt C {}
  | call {w : World} (c : Call) :
      Reached cfg fmt C w → w.Enabled c → C w c → Reached cfg fmt C (w.after cfg fmt c)

def CooldownAlarm.Active (a : CooldownAlarm) (id : String) : Prop :=
  (a.alarms.active.get? id).isSome = true

structure Consistent (a : CooldownAlarm) : Prop where
  cooldown : a.Active alarmId ↔ a.state = .fired
  watchdog : a.Active watchdogAlarmId ↔ a.state = .watchdogFired

/-- The safety manager was asked once, unless the entry was overtaken. -/
def Firing.Settled (cfg : Config) (f : Firing) : Prop :=
  f.requests = if f.overtaken = true ∨ cfg.safetyManager = false then 0 else 1

/-- The entries into FIRED whose tick is past the publication. -/
def World.past (w : World) : List Firing :=
  if w.tick.any fun t => t.point.isFired then w.firings.drop 1 else w.firings

/-- How often the safety manager was asked. -/
def World.latchRequests (w : World) : ℕ := (w.firings.map Firing.requests).sum

/-- A part of a tick that does not leave DISARMED, activates no alarm and does not
ask the safety manager. -/
structure Silent (w w' : World) : Prop where
  disarmed : w.alarm.state = .disarmed → w'.alarm.state = .disarmed
  inactive : ∀ id, w'.alarm.Active id → w.alarm.Active id
  latch : w'.latchRequests = w.latchRequests

structure Kept (cfg : Config) (fmt : Formats) (C : World → Call → Prop) (w : World) : Prop where
  idle : w.tick = none → Consistent w.alarm
  asked : ∀ f ∈ w.past, f.Settled cfg
  silent : ∀ r t, w.tick = some t → t.overtaken = true → w.Enabled (.resume r) →
    C w (.resume r) → Silent w (w.after cfg fmt (.resume r))

/-- Whether an evaluation enters or stays in FIRED. -/
def CooldownAlarm.fires (cfg : Config) (r : Readings) (a : CooldownAlarm) (s : Sample) : Bool :=
  !r.quasiSteady &&
    match a.model, r.predict with
    | some model, some p => decide (cfg.sustainedMin ≤ a.countAfter cfg model p s)
    | _, _ => false

/-- A tick goes on at a point that it may go on from. -/
def Point.Meets (cfg : Config) (r : Readings) (a : CooldownAlarm) : Point → Prop
  | .autoDisarmed _ => cfg.watchdogEnabled = true → a.state ≠ .disarmed
  | .watching s => a.state = .watching ∨ a.fires cfg r s = false
  | .watchdogFired _ => a.state = .watchdogFired
  | _ => True

/-- A call that does not reach a place where the alarm goes wrong. -/
def Careful (cfg : Config) (w : World) : Call → Prop
  | .arm r => CooldownAlarm.isColdStart cfg r = false → w.alarm.state ≠ .fired
  | .resume r => ∀ t, w.tick = some t → t.point.Meets cfg r w.alarm
  | _ => True

section Process

variable {a : CooldownAlarm} {id : String} {clock : Clock} {event : Option Event}

theorem active_process (hsound : ∀ e, event = some e → e.evaluatorError = false)
    (other : String) :
    (a.process id event clock).1.Active other ↔
      if other = id then event.isSome = true else a.Active other := by
  unfold CooldownAlarm.process CooldownAlarm.Active
  cases event with
  | none =>
      simp only [AlarmStateManager.process, AlarmStateManager.settle]
      cases hheld : a.alarms.active.get? id with
      | none => by_cases hid : other = id <;> simp [hid, hheld]
      | some held =>
          by_cases hid : other = id <;>
            simp [hid, AlarmStateManager.deactivate, AlarmStateManager.markActiveMutation]
  | some e =>
      have herror : e.evaluatorError = false := hsound e rfl
      simp only [AlarmStateManager.process, herror]
      cases hheld : a.alarms.active.get? id with
      | none =>
          by_cases hid : other = id <;>
            simp [hid, AlarmStateManager.raise, AlarmStateManager.activate,
              AlarmStateManager.markActiveMutation]
      | some held =>
          by_cases hmark : held.evaluatorError = false
          · by_cases hid : other = id <;>
              simp [hid, hheld, AlarmStateManager.markError, hmark]
          · by_cases hid : other = id <;>
              simp [hid, hheld, AlarmStateManager.markError, hmark, AlarmStateManager.amend,
                AlarmStateManager.markActiveMutation]

theorem active_clear (other : String) :
    (a.process id none clock).1.Active other ↔ other ≠ id ∧ a.Active other := by
  rw [active_process (by rintro _ ⟨⟩)]
  by_cases hid : other = id <;> simp [hid]

@[simp] theorem state_process : (a.process id event clock).1.state = a.state := rfl

@[simp] theorem watchdogCount_process :
    (a.process id event clock).1.watchdogSustainedCount = a.watchdogSustainedCount := rfl

theorem alarmId_ne : alarmId ≠ watchdogAlarmId := by decide

theorem watchdogAlarmId_ne : watchdogAlarmId ≠ alarmId := by decide

end Process

/-! ## What a tick finds when it goes on -/

/-- The state that a tick has left behind. -/
def Point.state : Point → CooldownState
  | .autoDisarmed _ => .autoDisarmed
  | .enteredWatchdog _ => .watchdog
  | .watching _ => .watching
  | .settled => .watching
  | .fired _ => .fired
  | .unfired => .watching
  | .latching _ => .fired
  | .watchdogCleared _ => .watchdog
  | .watchdogFired _ => .watchdogFired

/-- Nothing follows the publication of WATCHDOG. -/
def Point.isLast : Point → Bool
  | .enteredWatchdog _ => true
  | _ => false

def Point.Holds (a : CooldownAlarm) (cycle : ℕ) : Point → Prop
  | .fired e =>
      (e.evaluatorError = false ∧ e.level = "CRITICAL") ∧
        (a.state = .fired → ¬ a.Active alarmId ∧ ¬ a.Active watchdogAlarmId) ∧
          (a.state ≠ .fired → Consistent a ∧ cycle ≠ a.cycleGeneration)
  | .unfired =>
      a.state ≠ .fired ∧ (a.Active watchdogAlarmId ↔ a.state = .watchdogFired) ∧
        (cycle ≠ a.cycleGeneration → Consistent a)
  | .watchdogCleared _ =>
      (a.Active alarmId ↔ a.state = .fired) ∧ a.watchdogSustainedCount = 0 ∧
        a.state ≠ .watchdogFired
  | .watchdogFired e => e.evaluatorError = false ∧ (a.Active alarmId ↔ a.state = .fired)
  | _ => Consistent a

/-- What holds while a tick awaits. -/
structure Awaits (a : CooldownAlarm) (t : InProgress) : Prop where
  cycle_le : t.cycle ≤ a.cycleGeneration
  current : t.overtaken = false → t.cycle = a.cycleGeneration ∧ a.state = t.point.state
  left : t.overtaken = true → a.state = .disarmed ∨ a.state = .armed ∨ t.point.isLast = true
  alarms : t.point.Holds a t.cycle

/-- An armed alarm has a model, it only watches after the baseline, and the watchdog
fires after enough ticks. -/
structure Fit (cfg : Config) (now : Timestamp) (a : CooldownAlarm) : Prop where
  modelled : a.state ≠ .disarmed → a.model.isSome = true
  mature : a.state = .watching ∨ a.state = .fired → rateMinHistory ≤ now - a.tArmed
  lasting : a.state = .watchdogFired → cfg.watchdogRequiredTicks ≤ a.watchdogSustainedCount

/-- What holds at the end of a part of a tick. -/
def Turn.Ends (b : CooldownAlarm) (cycle : ℕ) (overtaken : Bool) : Turn → Prop
  | .returns _ => Consistent b
  | .publishes p => Awaits b ⟨cycle, p, overtaken⟩
  | .latches _ transition => Awaits b ⟨cycle, .latching transition, overtaken⟩

/-- What holds in every world that careful calls lead to. -/
structure Inv (cfg : Config) (w : World) : Prop where
  fit : Fit cfg w.now w.alarm
  idle : w.tick = none → Consistent w.alarm
  awaiting : ∀ t, w.tick = some t → Awaits w.alarm t
  past : ∀ f ∈ w.past, f.Settled cfg
  latest : ∀ t, w.tick = some t → t.point.isFired = true →
    ∃ rest, w.firings = ⟨0, t.overtaken⟩ :: rest

theorem Fit.later {cfg : Config} {now later : Timestamp} {a : CooldownAlarm}
    (h : Fit cfg now a) (hle : now ≤ later) : Fit cfg later a where
  modelled := h.modelled
  mature := fun hstate => (h.mature hstate).trans (Int.sub_le_sub_right hle _)
  lasting := h.lasting

theorem Fit.move {cfg : Config} {now : Timestamp} {a b : CooldownAlarm} (h : Fit cfg now a)
    (hmodel : b.model = a.model) (harmed : b.tArmed = a.tArmed)
    (hleft : b.state ≠ .disarmed → a.state ≠ .disarmed)
    (hmature : b.state = .watching ∨ b.state = .fired → rateMinHistory ≤ now - a.tArmed)
    (hlasting : b.state = .watchdogFired → cfg.watchdogRequiredTicks ≤ b.watchdogSustainedCount) :
    Fit cfg now b where
  modelled := fun hstate => by
    rw [hmodel]
    exact h.modelled (hleft hstate)
  mature := fun hstate => by
    rw [harmed]
    exact hmature hstate
  lasting := hlasting

theorem Fit.same {cfg : Config} {now : Timestamp} {a b : CooldownAlarm} (h : Fit cfg now a)
    (hmodel : b.model = a.model) (harmed : b.tArmed = a.tArmed) (hstate : b.state = a.state)
    (hcount : b.watchdogSustainedCount = a.watchdogSustainedCount) : Fit cfg now b := by
  refine h.move hmodel harmed ?_ ?_ ?_
  · rw [hstate]
    exact id
  · rw [hstate]
    exact h.mature
  · rw [hstate, hcount]
    exact h.lasting

theorem Consistent.congr {a b : CooldownAlarm} (h : Consistent a) (halarms : b.alarms = a.alarms)
    (hstate : b.state = a.state) : Consistent b := by
  constructor
  · unfold CooldownAlarm.Active
    rw [halarms, hstate]
    exact h.cooldown
  · unfold CooldownAlarm.Active
    rw [halarms, hstate]
    exact h.watchdog

theorem Consistent.quiet {a b : CooldownAlarm} (h : Consistent a) (hfired : a.state ≠ .fired)
    (hwatchdog : a.state ≠ .watchdogFired) (halarms : b.alarms = a.alarms)
    (hfired' : b.state ≠ .fired) (hwatchdog' : b.state ≠ .watchdogFired) : Consistent b := by
  constructor
  · unfold CooldownAlarm.Active
    rw [halarms]
    exact ⟨fun hact => absurd (h.cooldown.mp hact) hfired, fun hs => absurd hs hfired'⟩
  · unfold CooldownAlarm.Active
    rw [halarms]
    exact ⟨fun hact => absurd (h.watchdog.mp hact) hwatchdog, fun hs => absurd hs hwatchdog'⟩

section Parts

variable {cfg : Config} {fmt : Formats} {r : Readings} {a : CooldownAlarm} {cycle : ℕ}

theorem conclude_stale {event : Option Event} {justFired : Bool}
    (h : cycle ≠ a.cycleGeneration) :
    a.conclude cfg r cycle event justFired = (a, .returns none) := if_pos h

theorem conclude_none (h : cycle = a.cycleGeneration) (justFired : Bool) :
    a.conclude cfg r cycle none justFired =
      ((a.process alarmId none r.clock).1, .returns (a.process alarmId none r.clock).2) :=
  if_neg fun hne => hne h

theorem conclude_some (h : cycle = a.cycleGeneration) (e : Event) (justFired : Bool) :
    a.conclude cfg r cycle (some e) justFired =
      if justFired ∧ e.level = "CRITICAL" ∧ cfg.safetyManager then
        ((a.process alarmId (some e) r.clock).1, .latches e.message
          (a.process alarmId (some e) r.clock).2)
      else ((a.process alarmId (some e) r.clock).1,
        .returns (a.process alarmId (some e) r.clock).2) :=
  if_neg fun hne => hne h

theorem consistent_fired {e : Event} {clock : Clock} (herror : e.evaluatorError = false)
    (hstate : a.state = .fired) (hwatchdog : ¬ a.Active watchdogAlarmId) :
    Consistent (a.process alarmId (some e) clock).1 := by
  have hsound : ∀ e', some e = some e' → e'.evaluatorError = false := by
    intro e' he
    rw [← Option.some.inj he]
    exact herror
  constructor
  · rw [active_process hsound]
    simp [hstate]
  · rw [active_process hsound, if_neg watchdogAlarmId_ne]
    simp [hstate, hwatchdog]

theorem consistent_clear {clock : Clock} (hstate : a.state ≠ .fired)
    (hwatchdog : a.Active watchdogAlarmId ↔ a.state = .watchdogFired) :
    Consistent (a.process alarmId none clock).1 := by
  constructor
  · rw [active_clear]
    simp [hstate]
  · rw [active_clear]
    simp [watchdogAlarmId_ne, hwatchdog]

theorem judge_ends {overtaken : Bool} {model : EnsembleModel} {p : Prediction} {s : Sample}
    (hc : Consistent a) (hle : cycle ≤ a.cycleGeneration)
    (hcurrent : overtaken = false →
      cycle = a.cycleGeneration ∧ (a.state = .watching ∨ a.state = .fired))
    (hleft : overtaken = true → (a.state = .disarmed ∨ a.state = .armed) ∧
      ¬ cfg.sustainedMin ≤ a.countAfter cfg model p s) :
    (a.judge cfg fmt r cycle model p s).2.Ends (a.judge cfg fmt r cycle model p s).1 cycle
      overtaken := by
  unfold CooldownAlarm.judge
  extract_lets history b
  have hb : Consistent b := hc.congr rfl rfl
  split
  · rename_i hfires
    have hnot : overtaken = false := by
      cases overtaken with
      | false => rfl
      | true => exact absurd hfires (hleft rfl).2
    subst hnot
    obtain ⟨hcycle, hstate⟩ := hcurrent rfl
    split
    · -- an entry into FIRED
      rename_i hnew
      refine ⟨hle, fun _ => ⟨hcycle, rfl⟩, by simp, ⟨rfl, rfl⟩, fun _ => ?_,
        fun h => absurd rfl h⟩
      have hwatching : a.state = .watching := hstate.resolve_right hnew
      constructor
      · intro hact
        exact hnew (hb.cooldown.mp hact)
      · intro hact
        have hw : a.state = .watchdogFired := hb.watchdog.mp hact
        rw [hwatching] at hw
        cases hw
    · rename_i hold
      have hfired : b.state = .fired := not_not.mp hold
      have hcurrent' : cycle = b.cycleGeneration := hcycle
      rw [conclude_some hcurrent', if_neg (by simp)]
      refine consistent_fired rfl hfired ?_
      intro hact
      have hw := hb.watchdog.mp hact
      rw [hfired] at hw
      cases hw
  · split
    · -- FIRED is left
      rename_i hfired
      have hnot : overtaken = false := by
        cases overtaken with
        | false => rfl
        | true =>
            have hs : a.state = .fired := hfired
            rcases (hleft rfl).1 with h | h
            · rw [hs] at h
              cases h
            · rw [hs] at h
              cases h
      subst hnot
      obtain ⟨hcycle, _⟩ := hcurrent rfl
      have hw : ¬ b.Active watchdogAlarmId := by
        intro hact
        have hw := hb.watchdog.mp hact
        rw [hfired] at hw
        cases hw
      refine ⟨hle, fun _ => ⟨hcycle, rfl⟩, by simp, by simp, ?_, fun h => absurd hcycle h⟩
      exact ⟨fun hact => absurd hact hw, by simp⟩
    · rename_i hfired
      by_cases hcycle : cycle = b.cycleGeneration
      · rw [conclude_none hcycle]
        exact consistent_clear hfired hb.watchdog
      · rw [conclude_stale hcycle]
        exact hb

theorem evaluate_ends {overtaken : Bool} {s : Sample}
    (hc : Consistent a) (hle : cycle ≤ a.cycleGeneration)
    (hcurrent : overtaken = false →
      cycle = a.cycleGeneration ∧ (a.state = .watching ∨ a.state = .fired))
    (hleft : overtaken = true → (a.state = .disarmed ∨ a.state = .armed) ∧
      a.fires cfg r s = false) :
    (a.evaluate cfg fmt r cycle s).2.Ends (a.evaluate cfg fmt r cycle s).1 cycle overtaken := by
  unfold CooldownAlarm.evaluate
  split
  · split
    · rename_i hfired
      have hnot : overtaken = false := by
        cases overtaken with
        | false => rfl
        | true => rcases (hleft rfl).1 with h | h <;> rw [hfired] at h <;> cases h
      subst hnot
      obtain ⟨hcycle, _⟩ := hcurrent rfl
      refine ⟨hle, fun _ => ⟨hcycle, rfl⟩, by simp, consistent_clear (by simp) ?_⟩
      constructor
      · intro hact
        have hw : a.state = .watchdogFired := hc.watchdog.mp hact
        rw [hfired] at hw
        cases hw
      · intro h
        cases h
    · exact hc.congr rfl rfl
  · rename_i hsteady
    split
    · rename_i model p hmodel hpredict
      refine judge_ends hc hle hcurrent ?_
      intro hovertaken
      refine ⟨(hleft hovertaken).1, ?_⟩
      have hfires := (hleft hovertaken).2
      simpa [CooldownAlarm.fires, hmodel, hpredict, hsteady] using hfires
    · exact hc

theorem follow_ends {s : Sample} (hc : Consistent a)
    (hstate : a.state = .armed ∨ a.state = .watching ∨ a.state = .fired)
    (hmature : a.state = .fired → rateMinHistory ≤ s.elapsed) :
    (a.follow cfg fmt r a.cycleGeneration s).2.Ends (a.follow cfg fmt r a.cycleGeneration s).1
      a.cycleGeneration false := by
  have hwatchdog : ¬ a.Active watchdogAlarmId := by
    intro hact
    have hw := hc.watchdog.mp hact
    rcases hstate with h | h | h <;> rw [h] at hw <;> cases hw
  unfold CooldownAlarm.follow
  split
  · refine ⟨le_rfl, fun _ => ⟨rfl, rfl⟩, by simp, consistent_clear (by simp) ?_⟩
    exact ⟨fun hact => absurd hact hwatchdog, by simp⟩
  · split
    · rename_i hearly
      have hfired : a.state ≠ .fired := fun h => absurd (hmature h) (not_le.mpr hearly)
      refine hc.quiet hfired ?_ rfl (by simp) (by simp)
      exact fun h => hwatchdog (hc.watchdog.mpr h)
    · split
      · rename_i harmed
        refine ⟨le_rfl, fun _ => ⟨rfl, rfl⟩, by simp, ?_⟩
        refine hc.quiet ?_ ?_ rfl (by simp) (by simp)
        · rw [harmed]
          simp
        · rw [harmed]
          simp
      · rename_i hnot
        refine evaluate_ends hc le_rfl (fun _ => ⟨rfl, hstate.resolve_left hnot⟩) ?_
        intro h
        cases h

theorem watchdogConclude_ends {event : Option Event} {overtaken : Bool}
    (hsound : ∀ e, event = some e → e.evaluatorError = false)
    (hcooldown : a.Active alarmId ↔ a.state = .fired)
    (hstate : event.isSome = true ↔ a.state = .watchdogFired) :
    (a.watchdogConclude r event).2.Ends (a.watchdogConclude r event).1 cycle overtaken := by
  unfold CooldownAlarm.watchdogConclude
  constructor
  · rw [active_process hsound, if_neg alarmId_ne]
    exact hcooldown
  · rw [active_process hsound, if_pos rfl]
    exact hstate

theorem watchdogJudge_ends {tCold : Float} (hcooldown : a.Active alarmId ↔ a.state = .fired)
    (hstate : a.state = .watchdog ∨ a.state = .watchdogFired)
    (hcount : a.watchdogSustainedCount < cfg.watchdogRequiredTicks → a.state = .watchdog) :
    (a.watchdogJudge cfg fmt r tCold).2.Ends (a.watchdogJudge cfg fmt r tCold).1
      a.cycleGeneration false := by
  unfold CooldownAlarm.watchdogJudge
  split
  · split
    · refine ⟨le_rfl, fun _ => ⟨rfl, rfl⟩, by simp, rfl, ?_⟩
      have hfired : a.state ≠ .fired := by
        rcases hstate with h | h <;> rw [h] <;> simp
      exact ⟨fun hact => absurd (hcooldown.mp hact) hfired, by simp⟩
    · rename_i hold
      refine watchdogConclude_ends ?_ hcooldown ?_
      · intro e he
        rw [← Option.some.inj he]
        rfl
      · simpa using hold
  · rename_i hlow
    refine watchdogConclude_ends (by rintro _ ⟨⟩) hcooldown ?_
    rw [hcount (not_le.mp hlow)]
    simp

theorem watchdogTick_ends {now : Timestamp} (hc : Consistent a) (hfit : Fit cfg now a)
    (hstate : a.state = .watchdog ∨ a.state = .watchdogFired) :
    (a.watchdogTick cfg fmt r).2.Ends (a.watchdogTick cfg fmt r).1 a.cycleGeneration false := by
  have hjudge : ∀ (n : ℕ) (tCold : Float),
      (n < cfg.watchdogRequiredTicks → a.state = .watchdog) →
      (({ a with watchdogSustainedCount := n } :
        CooldownAlarm).watchdogJudge cfg fmt r tCold).2.Ends
        (({ a with watchdogSustainedCount := n } : CooldownAlarm).watchdogJudge cfg fmt r tCold).1
        a.cycleGeneration false := by
    intro n tCold hcount
    exact watchdogJudge_ends (a := { a with watchdogSustainedCount := n }) hc.cooldown hstate hcount
  unfold CooldownAlarm.watchdogTick
  cases r.cold with
  | none => exact hc
  | some cold =>
      dsimp only
      split
      · exact hc
      · unfold CooldownAlarm.watchdogFollow
        split
        · refine hjudge _ _ fun hlow => ?_
          rcases hstate with h | h
          · exact h
          · have hlasting := hfit.lasting h
            omega
        · dsimp only
          split
          · refine ⟨le_rfl, fun _ => ⟨rfl, rfl⟩, by simp, ?_, rfl, by simp⟩
            have hfired : a.state ≠ .fired := by
              rcases hstate with h | h <;> rw [h] <;> simp
            exact ⟨fun hact => absurd (hc.cooldown.mp hact) hfired, by simp⟩
          · rename_i hnot
            exact hjudge _ _ fun _ => hstate.resolve_right hnot

theorem disarm_consistent (clock : Clock) : Consistent (a.disarm clock) := by
  unfold CooldownAlarm.disarm
  constructor
  · rw [active_clear, active_clear]
    simp
  · rw [active_clear]
    simp

@[simp] theorem state_disarm (clock : Clock) : (a.disarm clock).state = .disarmed := rfl

theorem tick_ends {now : Timestamp} (hc : Consistent a) (hfit : Fit cfg now a)
    (hle : now ≤ r.monotonic) :
    (a.tick cfg fmt r).2.Ends (a.tick cfg fmt r).1 a.cycleGeneration false := by
  unfold CooldownAlarm.tick
  split
  · dsimp only
    split
    · exact disarm_consistent r.clock
    · exact hc.congr rfl rfl
  · split
    · exact hc
    · rename_i hrests
      split
      · rename_i hwatchdog
        exact watchdogTick_ends hc hfit hwatchdog
      · rename_i hwatchdog
        unfold CooldownAlarm.predictorTick
        split
        · split
          · exact hc
          · refine follow_ends hc ?_ ?_
            · cases hs : a.state <;> simp [hs] at hrests hwatchdog ⊢
            · intro hfired
              exact (hfit.later hle).mature (.inr hfired)
        · exact hc

theorem resume_ends {t : InProgress} (h : Awaits a t) (hmeets : t.point.Meets cfg r a) :
    (a.resume cfg fmt r t.cycle t.point).2.Ends (a.resume cfg fmt r t.cycle t.point).1 t.cycle
      t.overtaken := by
  obtain ⟨cycle, point, overtaken⟩ := t
  obtain ⟨hle, hcurrent, hleft, halarms⟩ := h
  dsimp only at hle hcurrent hleft halarms hmeets ⊢
  have hrest : point.isLast = false → overtaken = true →
      a.state = .disarmed ∨ a.state = .armed := by
    intro hlast hovertaken
    rcases hleft hovertaken with h | h | h
    · exact .inl h
    · exact .inr h
    · rw [hlast] at h
      cases h
  cases point with
  | autoDisarmed transition =>
      have hc : Consistent a := halarms
      dsimp only [CooldownAlarm.resume]
      split
      · have hquiet : a.state ≠ .fired ∧ a.state ≠ .watchdogFired := by
          cases overtaken with
          | false => simp [(hcurrent rfl).2, Point.state]
          | true => rcases hrest rfl rfl with h | h <;> simp [h]
        refine ⟨hle, fun hnot => ⟨(hcurrent hnot).1, rfl⟩, fun _ => .inr (.inr rfl), ?_⟩
        exact hc.quiet hquiet.1 hquiet.2 rfl (by simp) (by simp)
      · exact hc
  | enteredWatchdog transition => exact halarms
  | watching s =>
      refine evaluate_ends halarms hle ?_ ?_
      · intro hnot
        exact ⟨(hcurrent hnot).1, .inl (hcurrent hnot).2⟩
      · intro hovertaken
        have hstate := hrest rfl hovertaken
        refine ⟨hstate, hmeets.resolve_left ?_⟩
        rcases hstate with h | h <;> rw [h] <;> simp
  | settled => exact halarms
  | fired e =>
      obtain ⟨⟨herror, _⟩, hin, hout⟩ := halarms
      cases overtaken with
      | false =>
          obtain ⟨hcycle, hstate⟩ := hcurrent rfl
          have hfired : Consistent (a.process alarmId (some e) r.clock).1 :=
            consistent_fired herror hstate (hin hstate).2
          dsimp only [CooldownAlarm.resume]
          rw [conclude_some hcycle]
          split
          · exact ⟨hle, fun _ => ⟨hcycle, hstate⟩, by simp, hfired⟩
          · exact hfired
      | true =>
          have hstate : a.state ≠ .fired := by
            rcases hrest rfl rfl with h | h <;> rw [h] <;> simp
          dsimp only [CooldownAlarm.resume]
          rw [conclude_stale (hout hstate).2]
          exact (hout hstate).1
  | unfired =>
      obtain ⟨hstate, hwatchdog, hstale⟩ := halarms
      dsimp only [CooldownAlarm.resume]
      by_cases hcycle : cycle = a.cycleGeneration
      · rw [conclude_none hcycle]
        exact consistent_clear hstate hwatchdog
      · rw [conclude_stale hcycle]
        exact hstale hcycle
  | latching transition => exact halarms
  | watchdogCleared tCold =>
      obtain ⟨hcooldown, hcount, hstate⟩ := halarms
      have hlow : ¬ cfg.watchdogRequiredTicks ≤ a.watchdogSustainedCount := by
        have := cfg.required
        omega
      dsimp only [CooldownAlarm.resume, CooldownAlarm.watchdogJudge]
      rw [if_neg hlow]
      exact watchdogConclude_ends (by rintro _ ⟨⟩) hcooldown (by simp [hstate])
  | watchdogFired e =>
      obtain ⟨herror, hcooldown⟩ := halarms
      refine watchdogConclude_ends ?_ hcooldown ?_
      · intro e' he
        rw [← Option.some.inj he]
        exact herror
      · have hfired : a.state = .watchdogFired := hmeets
        simp [hfired]

end Parts

end Cooldown
end CryoDaq
