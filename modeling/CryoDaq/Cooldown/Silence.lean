import CryoDaq.Cooldown.Cycles

/-!
# The silence of a disarmed cooldown alarm

Every careful call keeps the invariant `Inv`, so every careful run keeps what the
cooldown alarm promises.

**Other calls.**  The last section has a run whose tick takes a disarmed alarm into
the watchdog.
-/

namespace CryoDaq
namespace Cooldown

open Alarms

section Parts

variable {cfg : Config} {fmt : Formats} {r : Readings} {a : CooldownAlarm} {cycle : ℕ}

/-! ## The model and the time of arming -/

@[simp] theorem state_conclude {event : Option Event} {justFired : Bool} :
    (a.conclude cfg r cycle event justFired).1.state = a.state := by
  unfold CooldownAlarm.conclude
  split
  · rfl
  · cases event with
    | none => rfl
    | some e =>
        dsimp only
        split <;> rfl

theorem conclude_fit {now : Timestamp} {event : Option Event} {justFired : Bool}
    (h : Fit cfg now a) : Fit cfg now (a.conclude cfg r cycle event justFired).1 := by
  unfold CooldownAlarm.conclude
  split
  · exact h
  · cases event with
    | none => exact h.same rfl rfl rfl rfl
    | some e =>
        dsimp only
        split <;> exact h.same rfl rfl rfl rfl

theorem judge_fit {now : Timestamp} {model : EnsembleModel} {p : Prediction} {s : Sample}
    (h : Fit cfg now a)
    (hfires : cfg.sustainedMin ≤ a.countAfter cfg model p s →
      a.state = .watching ∨ a.state = .fired) :
    Fit cfg now (a.judge cfg fmt r cycle model p s).1 := by
  unfold CooldownAlarm.judge
  extract_lets history b
  have hb : Fit cfg now b := h.same rfl rfl rfl rfl
  split
  · rename_i hcount
    have hstate : b.state = .watching ∨ b.state = .fired := hfires hcount
    split
    · refine hb.move rfl rfl (fun _ => ?_) (fun _ => hb.mature hstate) (by simp)
      rcases hstate with hs | hs <;> rw [hs] <;> simp
    · exact conclude_fit hb
  · split
    · rename_i hfired
      refine hb.move rfl rfl (fun _ => ?_) (fun _ => hb.mature (.inr hfired)) (by simp)
      rw [hfired]
      simp
    · exact conclude_fit hb

theorem evaluate_fit {now : Timestamp} {s : Sample} (h : Fit cfg now a)
    (hfires : a.fires cfg r s = true → a.state = .watching ∨ a.state = .fired) :
    Fit cfg now (a.evaluate cfg fmt r cycle s).1 := by
  unfold CooldownAlarm.evaluate
  split
  · split
    · rename_i hfired
      refine h.move rfl rfl (fun _ => ?_) (fun _ => h.mature (.inr hfired)) (by simp)
      rw [hfired]
      simp
    · exact h.same rfl rfl rfl rfl
  · rename_i hsteady
    split
    · rename_i model p hmodel hpredict
      refine judge_fit h fun hcount => hfires ?_
      simpa [CooldownAlarm.fires, hmodel, hpredict, hsteady] using hcount
    · exact h

theorem follow_fit {now : Timestamp} {s : Sample} (h : Fit cfg now a)
    (helapsed : s.elapsed = now - a.tArmed)
    (hstate : a.state = .armed ∨ a.state = .watching ∨ a.state = .fired) :
    Fit cfg now (a.follow cfg fmt r cycle s).1 := by
  have harmed : a.state ≠ .disarmed := by
    rcases hstate with hs | hs | hs <;> rw [hs] <;> simp
  unfold CooldownAlarm.follow
  split
  · exact h.move rfl rfl (fun _ => harmed) (by simp) (by simp)
  · split
    · exact h.move rfl rfl (fun _ => harmed) (by simp) (by simp)
    · rename_i hearly
      split
      · refine h.move rfl rfl (fun _ => harmed) (fun _ => ?_) (by simp)
        rw [← helapsed]
        exact not_lt.mp hearly
      · rename_i hnot
        exact evaluate_fit h fun _ => hstate.resolve_left hnot

theorem watchdogConclude_fit {now : Timestamp} {event : Option Event} (h : Fit cfg now a) :
    Fit cfg now (a.watchdogConclude r event).1 := h.same rfl rfl rfl rfl

theorem watchdogJudge_fit {now : Timestamp} {tCold : Float} (h : Fit cfg now a)
    (hstate : a.state ≠ .disarmed) : Fit cfg now (a.watchdogJudge cfg fmt r tCold).1 := by
  unfold CooldownAlarm.watchdogJudge
  split
  · rename_i hcount
    split
    · exact h.move rfl rfl (fun _ => hstate) (by simp) (fun _ => hcount)
    · exact watchdogConclude_fit h
  · exact watchdogConclude_fit h

theorem watchdogTick_fit {now : Timestamp} (h : Fit cfg now a)
    (hstate : a.state = .watchdog ∨ a.state = .watchdogFired) :
    Fit cfg now (a.watchdogTick cfg fmt r).1 := by
  have hwatching : a.state ≠ .disarmed ∧ a.state ≠ .watching ∧ a.state ≠ .fired := by
    rcases hstate with hs | hs <;> simp [hs]
  unfold CooldownAlarm.watchdogTick
  cases r.cold with
  | none => exact h
  | some cold =>
      dsimp only
      split
      · exact h
      · unfold CooldownAlarm.watchdogFollow
        dsimp only
        split
        · refine watchdogJudge_fit (h.move rfl rfl id ?_ ?_) hwatching.1
          · simp [hwatching]
          · intro hfired
            exact (h.lasting hfired).trans (Nat.le_succ _)
        · split
          · exact h.move rfl rfl (fun _ => hwatching.1) (by simp) (by simp)
          · rename_i hnot
            refine watchdogJudge_fit (h.move rfl rfl id ?_ ?_) hwatching.1
            · simp [hwatching]
            · exact fun hfired => absurd hfired hnot

theorem disarm_fit {now : Timestamp} (clock : Clock) : Fit cfg now (a.disarm clock) where
  modelled := by simp
  mature := by simp
  lasting := by simp

theorem tick_fit {now : Timestamp} (h : Fit cfg now a) (hle : now ≤ r.monotonic) :
    Fit cfg r.monotonic (a.tick cfg fmt r).1 := by
  have hlater := h.later hle
  unfold CooldownAlarm.tick
  split
  · dsimp only
    split
    · exact disarm_fit r.clock
    · exact hlater.same rfl rfl rfl rfl
  · split
    · exact hlater
    · rename_i hrests
      split
      · rename_i hwatchdog
        exact watchdogTick_fit hlater hwatchdog
      · rename_i hwatchdog
        unfold CooldownAlarm.predictorTick
        split
        · split
          · exact hlater
          · refine follow_fit hlater rfl ?_
            cases hs : a.state <;> simp [hs] at hrests hwatchdog ⊢
        · exact hlater

theorem resume_fit {now : Timestamp} {t : InProgress} (hfit : Fit cfg now a)
    (hle : now ≤ r.monotonic) (h : Awaits a t) (hmeets : t.point.Meets cfg r a) :
    Fit cfg r.monotonic (a.resume cfg fmt r t.cycle t.point).1 := by
  have hlater := hfit.later hle
  obtain ⟨cycle, point, overtaken⟩ := t
  dsimp only at h hmeets ⊢
  cases point with
  | autoDisarmed transition =>
      dsimp only [CooldownAlarm.resume]
      split
      · rename_i henabled
        exact hlater.move rfl rfl (fun _ => hmeets henabled) (by simp) (by simp)
      · exact hlater
  | enteredWatchdog transition => exact hlater
  | watching s =>
      refine evaluate_fit hlater fun hfires => .inl (hmeets.resolve_right ?_)
      simp [hfires]
  | settled => exact hlater
  | fired e => exact conclude_fit hlater
  | unfired => exact conclude_fit hlater
  | latching transition => exact hlater
  | watchdogCleared tCold =>
      have hlow : ¬ cfg.watchdogRequiredTicks ≤ a.watchdogSustainedCount := by
        have hcount := h.alarms.2.1
        have hrequired := cfg.required
        omega
      dsimp only [CooldownAlarm.resume, CooldownAlarm.watchdogJudge]
      rw [if_neg hlow]
      exact watchdogConclude_fit hlater
  | watchdogFired e => exact watchdogConclude_fit hlater

/-! ## Requests to the safety manager -/

/-- Whether a part of a tick ends with a request. -/
def Turn.asks : Turn → Bool
  | .latches _ _ => true
  | _ => false

theorem conclude_asks {event : Option Event} :
    (a.conclude cfg r cycle event false).2.asks = false := by
  unfold CooldownAlarm.conclude
  split
  · rfl
  · cases event with
    | none => rfl
    | some e => simp [Turn.asks]

theorem judge_asks {model : EnsembleModel} {p : Prediction} {s : Sample} :
    (a.judge cfg fmt r cycle model p s).2.asks = false := by
  unfold CooldownAlarm.judge
  dsimp only
  split
  · split
    · rfl
    · exact conclude_asks
  · split
    · rfl
    · exact conclude_asks

theorem evaluate_asks {s : Sample} : (a.evaluate cfg fmt r cycle s).2.asks = false := by
  unfold CooldownAlarm.evaluate
  split
  · split <;> rfl
  · split
    · exact judge_asks
    · rfl

theorem watchdogJudge_asks {tCold : Float} :
    (a.watchdogJudge cfg fmt r tCold).2.asks = false := by
  unfold CooldownAlarm.watchdogJudge
  split
  · dsimp only
    split <;> rfl
  · rfl

theorem watchdogTick_asks : (a.watchdogTick cfg fmt r).2.asks = false := by
  unfold CooldownAlarm.watchdogTick
  cases r.cold with
  | none => rfl
  | some cold =>
      dsimp only
      split
      · rfl
      · unfold CooldownAlarm.watchdogFollow
        dsimp only
        split
        · exact watchdogJudge_asks
        · split
          · rfl
          · exact watchdogJudge_asks

theorem tick_asks : (a.tick cfg fmt r).2.asks = false := by
  unfold CooldownAlarm.tick
  split
  · rfl
  · split
    · rfl
    · split
      · exact watchdogTick_asks
      · unfold CooldownAlarm.predictorTick CooldownAlarm.follow
        split
        · split
          · rfl
          · dsimp only
            split
            · rfl
            · split
              · rfl
              · split
                · rfl
                · exact evaluate_asks
        · rfl

theorem resume_asks {p : Point} (hfired : p.isFired = false) :
    (a.resume cfg fmt r cycle p).2.asks = false := by
  cases p with
  | autoDisarmed transition =>
      dsimp only [CooldownAlarm.resume]
      split <;> rfl
  | enteredWatchdog transition => rfl
  | watching s => exact evaluate_asks
  | settled => rfl
  | fired e => cases hfired
  | unfired => exact conclude_asks
  | latching transition => rfl
  | watchdogCleared tCold => exact watchdogJudge_asks
  | watchdogFired e => rfl

theorem resume_fired_asks {e : Event} {overtaken : Bool}
    (h : Awaits a ⟨cycle, .fired e, overtaken⟩) :
    (a.resume cfg fmt r cycle (.fired e)).2.asks = (!overtaken && cfg.safetyManager) ∧
      ∀ p, (a.resume cfg fmt r cycle (.fired e)).2 ≠ .publishes p := by
  obtain ⟨hle, hcurrent, hleft, ⟨⟨herror, hlevel⟩, hin, hout⟩⟩ := h
  dsimp only [CooldownAlarm.resume]
  cases overtaken with
  | false =>
      rw [conclude_some (hcurrent rfl).1]
      cases hmanager : cfg.safetyManager <;> simp [hlevel, Turn.asks]
  | true =>
      have hstate : a.state ≠ .fired := by
        rcases hleft rfl with h | h | h
        · rw [h]
          simp
        · rw [h]
          simp
        · cases h
      rw [conclude_stale (hout hstate).2]
      simp [Turn.asks]

/-- An overtaken part does not leave DISARMED and activates nothing. -/
structure Subdued (a b : CooldownAlarm) : Prop where
  disarmed : a.state = .disarmed → b.state = .disarmed
  inactive : ∀ id, b.Active id → a.Active id

theorem Subdued.refl : Subdued a a := ⟨id, fun _ => id⟩

theorem Subdued.clear {b : CooldownAlarm} (hstate : a.state = .disarmed → b.state = .disarmed)
    (halarms : b.alarms = a.alarms) (id : String) (clock : Clock) :
    Subdued a (b.process id none clock).1 := by
  refine ⟨fun h => hstate h, fun other hact => ?_⟩
  have hb : b.Active other := ((active_clear other).mp hact).2
  unfold CooldownAlarm.Active at hb ⊢
  rw [← halarms]
  exact hb

theorem conclude_subdued : Subdued a (a.conclude cfg r cycle none false).1 := by
  by_cases hcycle : cycle = a.cycleGeneration
  · rw [conclude_none hcycle]
    exact Subdued.clear id rfl _ _
  · rw [conclude_stale hcycle]
    exact Subdued.refl

theorem evaluate_subdued {s : Sample} (hstate : a.state = .disarmed ∨ a.state = .armed)
    (hfires : a.fires cfg r s = false) : Subdued a (a.evaluate cfg fmt r cycle s).1 := by
  have hfired : a.state ≠ .fired := by
    rcases hstate with h | h <;> rw [h] <;> simp
  unfold CooldownAlarm.evaluate
  split
  · exact ⟨id, fun _ => id⟩
  · rename_i hsteady
    split
    · rename_i model p hmodel hpredict
      have hcount : ¬ cfg.sustainedMin ≤ a.countAfter cfg model p s := by
        simpa [CooldownAlarm.fires, hmodel, hpredict, hsteady] using hfires
      unfold CooldownAlarm.judge
      extract_lets history b
      rw [if_neg hcount, if_neg (show ¬ b.state = .fired from hfired)]
      exact ⟨(conclude_subdued (a := b)).disarmed, (conclude_subdued (a := b)).inactive⟩
    · exact Subdued.refl

theorem resume_subdued {t : InProgress} (h : Awaits a t) (hovertaken : t.overtaken = true)
    (hmeets : t.point.Meets cfg r a) :
    Subdued a (a.resume cfg fmt r t.cycle t.point).1 := by
  obtain ⟨cycle, point, overtaken⟩ := t
  obtain ⟨hle, hcurrent, hleft, halarms⟩ := h
  dsimp only at hovertaken hleft halarms hmeets ⊢
  have hrest : point.isLast = false → a.state = .disarmed ∨ a.state = .armed := by
    intro hlast
    rcases hleft hovertaken with h | h | h
    · exact .inl h
    · exact .inr h
    · rw [hlast] at h
      cases h
  cases point with
  | autoDisarmed transition =>
      dsimp only [CooldownAlarm.resume]
      split
      · rename_i henabled
        exact ⟨fun h => absurd h (hmeets henabled), fun _ => id⟩
      · exact Subdued.refl
  | enteredWatchdog transition => exact Subdued.refl
  | watching s =>
      have hstate := hrest rfl
      refine evaluate_subdued hstate (hmeets.resolve_left ?_)
      rcases hstate with h | h <;> rw [h] <;> simp
  | settled => exact Subdued.refl
  | fired e =>
      have hstate : a.state ≠ .fired := by
        rcases hrest rfl with h | h <;> rw [h] <;> simp
      dsimp only [CooldownAlarm.resume]
      rw [conclude_stale (halarms.2.2 hstate).2]
      exact Subdued.refl
  | unfired => exact @conclude_subdued cfg r a cycle
  | latching transition => exact Subdued.refl
  | watchdogCleared tCold =>
      have hlow : ¬ cfg.watchdogRequiredTicks ≤ a.watchdogSustainedCount := by
        have hcount := halarms.2.1
        have hrequired := cfg.required
        omega
      dsimp only [CooldownAlarm.resume, CooldownAlarm.watchdogJudge]
      rw [if_neg hlow]
      exact Subdued.clear id rfl _ _
  | watchdogFired e =>
      have hfired : a.state = .watchdogFired := hmeets
      rcases hrest rfl with h | h <;> rw [h] at hfired <;> cases hfired

/-! ## Calls between the parts -/

theorem Awaits.congr {b : CooldownAlarm} {t : InProgress} (h : Awaits a t)
    (halarms : b.alarms = a.alarms) (hstate : b.state = a.state)
    (hcycle : b.cycleGeneration = a.cycleGeneration)
    (hcount : b.watchdogSustainedCount = a.watchdogSustainedCount) : Awaits b t := by
  have hactive : ∀ id, b.Active id ↔ a.Active id := by
    intro id
    unfold CooldownAlarm.Active
    rw [halarms]
  have hconsistent : Consistent a → Consistent b := fun hc => hc.congr halarms hstate
  obtain ⟨cycle, point, overtaken⟩ := t
  obtain ⟨hle, hcurrent, hleft, hholds⟩ := h
  refine ⟨hcycle ▸ hle, ?_, ?_, ?_⟩
  · rw [hstate, hcycle]
    exact hcurrent
  · rw [hstate]
    exact hleft
  · cases point with
    | fired e =>
        obtain ⟨hevent, hin, hout⟩ := hholds
        refine ⟨hevent, ?_, ?_⟩
        · rw [hstate, hactive, hactive]
          exact hin
        · rw [hstate, hcycle]
          exact fun hs => ⟨hconsistent (hout hs).1, (hout hs).2⟩
    | unfired =>
        obtain ⟨hs, hwatchdog, hstale⟩ := hholds
        refine ⟨?_, ?_, ?_⟩
        · rw [hstate]
          exact hs
        · rw [hactive, hstate]
          exact hwatchdog
        · rw [hcycle]
          exact fun hne => hconsistent (hstale hne)
    | watchdogCleared tCold =>
        obtain ⟨hcooldown, hzero, hs⟩ := hholds
        refine ⟨?_, ?_, ?_⟩
        · rw [hactive, hstate]
          exact hcooldown
        · rw [hcount]
          exact hzero
        · rw [hstate]
          exact hs
    | watchdogFired e =>
        refine ⟨hholds.1, ?_⟩
        rw [hactive, hstate]
        exact hholds.2
    | autoDisarmed transition => exact hconsistent hholds
    | enteredWatchdog transition => exact hconsistent hholds
    | watching s => exact hconsistent hholds
    | settled => exact hconsistent hholds
    | latching transition => exact hconsistent hholds

/-- What a call that overtakes the tick leaves behind. -/
structure Fresh (a b : CooldownAlarm) : Prop where
  state : b.state = .disarmed ∨ b.state = .armed
  cooldown : (a.Active alarmId → a.state = .fired) → ¬ b.Active alarmId
  watchdog : (a.Active watchdogAlarmId → a.state = .watchdogFired) → ¬ b.Active watchdogAlarmId
  cycle_le : a.cycleGeneration ≤ b.cycleGeneration
  count : a.watchdogSustainedCount = 0 → b.watchdogSustainedCount = 0
  turned : a.state = .fired → a.cycleGeneration < b.cycleGeneration
  settled : b.cycleGeneration = a.cycleGeneration ∨ ¬ b.Active alarmId

section Fresh

variable {b : CooldownAlarm}

theorem Fresh.not_fired (h : Fresh a b) : b.state ≠ .fired ∧ b.state ≠ .watchdogFired := by
  rcases h.state with hs | hs <;> simp [hs]

theorem Fresh.quiet (h : Fresh a b) (hcooldown : ¬ b.Active alarmId)
    (hwatchdog : ¬ b.Active watchdogAlarmId) : Consistent b where
  cooldown := ⟨fun hact => absurd hact hcooldown, fun hs => absurd hs h.not_fired.1⟩
  watchdog := ⟨fun hact => absurd hact hwatchdog, fun hs => absurd hs h.not_fired.2⟩

theorem Fresh.consistent (h : Fresh a b) (hc : Consistent a) : Consistent b :=
  h.quiet (h.cooldown hc.cooldown.mp) (h.watchdog hc.watchdog.mp)

theorem Fresh.awaits {t : InProgress} (h : Fresh a b) (hawaits : Awaits a t) :
    Awaits b { t with overtaken := true } := by
  obtain ⟨cycle, point, overtaken⟩ := t
  obtain ⟨hle, hcurrent, hleft, hholds⟩ := hawaits
  dsimp only at hle
  refine ⟨hle.trans h.cycle_le, by simp, fun _ => ?_, ?_⟩
  · rcases h.state with hs | hs
    · exact .inl hs
    · exact .inr (.inl hs)
  · cases point with
    | fired e =>
        obtain ⟨hevent, hin, hout⟩ := hholds
        refine ⟨hevent, fun hs => absurd hs h.not_fired.1, fun _ => ?_⟩
        by_cases hfired : a.state = .fired
        · obtain ⟨hcooldown, hwatchdog⟩ := hin hfired
          refine ⟨h.quiet (h.cooldown fun hact => absurd hact hcooldown)
            (h.watchdog fun hact => absurd hact hwatchdog), ?_⟩
          exact (lt_of_le_of_lt hle (h.turned hfired)).ne
        · obtain ⟨hc, hne⟩ := hout hfired
          exact ⟨h.consistent hc, (lt_of_lt_of_le (lt_of_le_of_ne hle hne) h.cycle_le).ne⟩
    | unfired =>
        obtain ⟨hs, hwatchdog, hstale⟩ := hholds
        have hquiet : ¬ b.Active watchdogAlarmId := h.watchdog hwatchdog.mp
        refine ⟨h.not_fired.1, ⟨fun hact => absurd hact hquiet,
          fun hfired => absurd hfired h.not_fired.2⟩, fun hne => ?_⟩
        rcases h.settled with hsame | hcooldown
        · rw [hsame] at hne
          exact h.consistent (hstale hne)
        · exact h.quiet hcooldown hquiet
    | watchdogCleared tCold =>
        obtain ⟨hcooldown, hzero, hs⟩ := hholds
        refine ⟨⟨fun hact => absurd hact (h.cooldown hcooldown.mp),
          fun hfired => absurd hfired h.not_fired.1⟩, h.count hzero, h.not_fired.2⟩
    | watchdogFired e =>
        exact ⟨hholds.1, fun hact => absurd hact (h.cooldown hholds.2.mp),
          fun hfired => absurd hfired h.not_fired.1⟩
    | autoDisarmed transition => exact h.consistent hholds
    | enteredWatchdog transition => exact h.consistent hholds
    | watching s => exact h.consistent hholds
    | settled => exact h.consistent hholds
    | latching transition => exact h.consistent hholds

end Fresh

theorem disarm_inactive (clock : Clock) :
    ¬ (a.disarm clock).Active alarmId ∧ ¬ (a.disarm clock).Active watchdogAlarmId := by
  unfold CooldownAlarm.disarm
  rw [active_clear, active_clear, active_clear]
  simp

theorem disarm_fresh (clock : Clock) : Fresh a (a.disarm clock) where
  state := .inl rfl
  cooldown := fun _ => (disarm_inactive clock).1
  watchdog := fun _ => (disarm_inactive clock).2
  cycle_le := Nat.le_succ _
  count := fun _ => rfl
  turned := fun _ => Nat.lt_succ_self _
  settled := .inr (disarm_inactive clock).1

theorem disarmed_fresh (hstate : a.state = .disarmed) : Fresh a a where
  state := .inl hstate
  cooldown := fun h hact => by
    have hs := h hact
    rw [hstate] at hs
    cases hs
  watchdog := fun h hact => by
    have hs := h hact
    rw [hstate] at hs
    cases hs
  cycle_le := le_rfl
  count := id
  turned := fun h => by
    rw [hstate] at h
    cases h
  settled := .inl rfl

theorem leaveWatchdog_spec :
    ((a.leaveWatchdog r).Active alarmId ↔ a.Active alarmId) ∧
      ((a.Active watchdogAlarmId → a.state = .watchdogFired) →
        ¬ (a.leaveWatchdog r).Active watchdogAlarmId) ∧
      (a.watchdogSustainedCount = 0 → (a.leaveWatchdog r).watchdogSustainedCount = 0) ∧
      (a.leaveWatchdog r).cycleGeneration = a.cycleGeneration ∧
      (a.leaveWatchdog r).model = a.model := by
  unfold CooldownAlarm.leaveWatchdog
  split
  · refine ⟨?_, fun _ => ?_, fun _ => rfl, rfl, rfl⟩
    · exact (active_clear alarmId).trans ⟨fun h => h.2, fun h => ⟨alarmId_ne, h⟩⟩
    · exact fun hact => absurd rfl ((active_clear watchdogAlarmId).mp hact).1
  · rename_i hstate
    refine ⟨Iff.rfl, fun himp hact => hstate (.inr (.inr (himp hact))), id, rfl, rfl⟩

theorem arm_spec {now : Timestamp} (hfit : Fit cfg now a)
    (hcareful : CooldownAlarm.isColdStart cfg r = false → a.state ≠ .fired) :
    ((a.arm cfg r).2 = true ∧ Fresh a (a.arm cfg r).1 ∧
        Fit cfg r.monotonic (a.arm cfg r).1) ∨
      ((a.arm cfg r).2 = false ∧
        ∃ skipped, (a.arm cfg r).1 = { a with coldStartSkipped := skipped }) := by
  unfold CooldownAlarm.arm
  by_cases hcold : CooldownAlarm.isColdStart cfg r = true
  · rw [if_pos hcold]
    exact .inr ⟨rfl, true, rfl⟩
  · rw [if_neg hcold]
    have hnot : a.state ≠ .fired := hcareful (by simpa using hcold)
    obtain ⟨hcooldown, hwatchdog, hcount, hcycle, hmodel⟩ :=
      @leaveWatchdog_spec r { a with coldStartSkipped := false }
    dsimp only
    cases hb : (CooldownAlarm.leaveWatchdog r { a with coldStartSkipped := false }).model.or
        r.modelFile with
    | none =>
        refine .inr ⟨rfl, false, ?_⟩
        have hdisarmed : a.state = .disarmed := by
          by_contra hstate
          have hsome := hfit.modelled hstate
          rw [hmodel] at hb
          dsimp only at hb
          cases hm : a.model with
          | none => simp [hm] at hsome
          | some m => simp [hm] at hb
        unfold CooldownAlarm.leaveWatchdog
        rw [if_neg]
        simp [hdisarmed]
    | some model =>
        refine .inl ⟨rfl, ⟨.inr rfl, ?_, ?_, ?_, ?_, ?_, .inl hcycle⟩, ?_⟩
        · intro h hact
          exact hnot (h (hcooldown.mp hact))
        · exact fun h hact => hwatchdog h hact
        · exact hcycle.ge
        · exact hcount
        · exact fun hfired => absurd hfired hnot
        · exact ⟨fun _ => rfl, by simp [CooldownAlarm.startCycle],
            by simp [CooldownAlarm.startCycle]⟩

end Parts

section Runs

variable {cfg : Config} {fmt : Formats} {w : World}

theorem drop_amendLatest (f : Firing → Firing) (xs : List Firing) :
    (amendLatest f xs).drop 1 = xs.drop 1 := by
  cases xs <;> rfl

@[simp] theorem alarm_overtake : w.overtake.alarm = w.alarm := by
  unfold World.overtake
  cases w.tick <;> rfl

@[simp] theorem now_overtake : w.overtake.now = w.now := by
  unfold World.overtake
  cases w.tick <;> rfl

theorem Inv.of_alarm {a : CooldownAlarm} (h : Inv cfg w) (hfit : Fit cfg w.now a)
    (hidle : w.tick = none → Consistent a) (hawaiting : ∀ t, w.tick = some t → Awaits a t) :
    Inv cfg { w with alarm := a } where
  fit := hfit
  idle := hidle
  awaiting := hawaiting
  past := h.past
  latest := h.latest

theorem Inv.overtaken {a : CooldownAlarm} {now : Timestamp} (h : Inv cfg w) (hfit : Fit cfg now a)
    (hfresh : Fresh w.alarm a) : Inv cfg { w with alarm := a, now := now }.overtake := by
  unfold World.overtake
  cases htick : w.tick with
  | none =>
      refine ⟨hfit, fun _ => hfresh.consistent (h.idle htick), by simp, ?_, by simp⟩
      have hpast := h.past
      simp only [World.past, htick] at hpast ⊢
      exact hpast
  | some t =>
      refine ⟨hfit, by simp, ?_, ?_, ?_⟩
      · intro t' ht'
        rw [← Option.some.inj ht']
        exact hfresh.awaits (h.awaiting t htick)
      · have hpast := h.past
        cases hfired : t.point.isFired with
        | false => simpa [World.past, htick, hfired] using hpast
        | true =>
            simp only [World.past, htick, Option.any_some, hfired, if_true] at hpast ⊢
            rw [drop_amendLatest]
            exact hpast
      · intro t' ht' hfired
        rw [← Option.some.inj ht'] at hfired ⊢
        dsimp only at hfired ⊢
        obtain ⟨rest, hrest⟩ := h.latest t htick hfired
        rw [if_pos hfired, hrest]
        exact ⟨rest, rfl⟩

theorem Inv.settle {b : CooldownAlarm} {now : Timestamp} {cycle : ℕ} {overtaken : Bool}
    {turn : Turn} (hfit : Fit cfg now b) (hends : turn.Ends b cycle overtaken)
    (hasks : turn.asks = false) (hpast : ∀ f ∈ w.firings, f.Settled cfg) :
    Inv cfg ({ w with now := now }.settle cycle overtaken b turn) := by
  cases turn with
  | latches reason transition => cases hasks
  | returns transition =>
      exact ⟨hfit, fun _ => hends, by simp [World.settle],
        by simpa [World.past, World.settle] using hpast, by simp [World.settle]⟩
  | publishes p =>
      refine ⟨hfit, by simp [World.settle], ?_, ?_, ?_⟩
      · intro t ht
        rw [← Option.some.inj ht]
        exact hends
      · cases hfired : p.isFired <;> simpa [World.past, World.settle, hfired] using hpast
      · intro t ht hfired
        rw [← Option.some.inj ht] at hfired ⊢
        simp only [World.settle] at hfired ⊢
        rw [if_pos hfired]
        exact ⟨w.firings, rfl⟩

theorem Inv.resume_fired {r : Readings} {t : InProgress} (h : Inv cfg w) (ht : w.tick = some t)
    (hle : w.now ≤ r.monotonic) (hmeets : t.point.Meets cfg r w.alarm)
    (hfired : t.point.isFired = true) : Inv cfg (w.resumed cfg fmt r t) := by
  have hawaits := h.awaiting t ht
  have hends : (w.alarm.resume cfg fmt r t.cycle t.point).2.Ends _ t.cycle t.overtaken :=
    resume_ends hawaits hmeets
  have hfit : Fit cfg r.monotonic (w.alarm.resume cfg fmt r t.cycle t.point).1 :=
    resume_fit h.fit hle hawaits hmeets
  obtain ⟨rest, hrest⟩ := h.latest t ht hfired
  have hpast : ∀ f ∈ rest, f.Settled cfg := by
    have := h.past
    simpa [World.past, ht, hfired, hrest] using this
  obtain ⟨cycle, point, overtaken⟩ := t
  cases point with
  | fired e =>
      obtain ⟨hasks, hquiet⟩ := @resume_fired_asks cfg fmt r _ _ _ _ hawaits
      unfold World.resumed
      dsimp only at hends hfit hrest ⊢
      generalize w.alarm.resume cfg fmt r cycle (.fired e) = part at hends hfit hasks hquiet ⊢
      obtain ⟨b, turn⟩ := part
      cases turn with
      | returns transition =>
          have hsettled : (⟨0, overtaken⟩ : Firing).Settled cfg := by
            unfold Firing.Settled
            cases overtaken <;> cases hmanager : cfg.safetyManager <;>
              simp [Turn.asks, hmanager] at hasks ⊢
          refine Inv.settle hfit hends rfl ?_
          rw [hrest]
          simpa [hsettled] using hpast
      | publishes p => exact absurd rfl (hquiet p)
      | latches reason transition =>
          have hsettled : (⟨1, overtaken⟩ : Firing).Settled cfg := by
            unfold Firing.Settled
            cases overtaken <;> cases hmanager : cfg.safetyManager <;>
              simp [Turn.asks, hmanager] at hasks ⊢
          refine ⟨hfit, by simp [World.settle], ?_, ?_, ?_⟩
          · intro t ht
            rw [← Option.some.inj ht]
            exact hends
          · simpa [World.past, World.settle, Point.isFired, hrest, amendLatest, hsettled]
              using hpast
          · intro t ht hlatching
            rw [← Option.some.inj ht] at hlatching
            cases hlatching
  | _ => cases hfired

theorem Inv.after {c : Call} (h : Inv cfg w) (henabled : w.Enabled c) (hcareful : Careful cfg w c) :
    Inv cfg (w.after cfg fmt c) := by
  cases c with
  | arm r =>
      have hspec := arm_spec h.fit hcareful
      dsimp only [World.after]
      rcases hspec with ⟨harmed, hfresh, hfit⟩ | ⟨harmed, skipped, hsame⟩
      · rw [if_pos harmed]
        exact h.overtaken hfit hfresh
      · rw [if_neg (by simp [harmed]), hsame]
        have hlater := h.fit.later henabled
        exact ⟨hlater.same rfl rfl rfl rfl, fun hidle => (h.idle hidle).congr rfl rfl,
          fun t ht => (h.awaiting t ht).congr rfl rfl rfl rfl, h.past, h.latest⟩
  | disarm clock => exact @Inv.overtaken cfg w _ w.now h (disarm_fit clock) (disarm_fresh clock)
  | notifyPhaseChange newPhase clock =>
      dsimp only [World.after, CooldownAlarm.notifyPhaseChange]
      split
      · exact h.of_alarm (h.fit.same rfl rfl rfl rfl) (fun hidle => (h.idle hidle).congr rfl rfl)
          fun t ht => (h.awaiting t ht).congr rfl rfl rfl rfl
      · split
        · rename_i hstate
          exact @Inv.overtaken cfg w w.alarm w.now h h.fit (disarmed_fresh hstate)
        · exact @Inv.overtaken cfg w _ w.now h (disarm_fit clock) (disarm_fresh clock)
  | notifyExperimentFinalized =>
      exact h.of_alarm (h.fit.same rfl rfl rfl rfl) (fun hidle => (h.idle hidle).congr rfl rfl)
        fun t ht => (h.awaiting t ht).congr rfl rfl rfl rfl
  | tick r =>
      obtain ⟨hidle, hle⟩ := henabled
      have hpast := h.past
      simp only [World.past, hidle, Option.any_none] at hpast
      exact Inv.settle (tick_fit h.fit hle) (tick_ends (h.idle hidle) h.fit hle) tick_asks hpast
  | resume r =>
      obtain ⟨hsome, hle⟩ := henabled
      obtain ⟨t, ht⟩ := Option.isSome_iff_exists.mp hsome
      have hmeets : t.point.Meets cfg r w.alarm := hcareful t ht
      have hafter : w.after cfg fmt (.resume r) = w.resumed cfg fmt r t := by
        simp only [World.after, ht]
      rw [hafter]
      cases hfired : t.point.isFired with
      | true => exact h.resume_fired ht hle hmeets hfired
      | false =>
          have hawaits := h.awaiting t ht
          have hpast := h.past
          simp only [World.past, ht, Option.any_some, hfired] at hpast
          exact Inv.settle (resume_fit h.fit hle hawaits hmeets) (resume_ends hawaits hmeets)
            (resume_asks hfired) hpast

theorem inv_init : Inv cfg {} where
  fit := ⟨by simp, by simp, by simp⟩
  idle := fun _ => by
    constructor <;> simp [CooldownAlarm.Active, AlarmStateManager.new]
  awaiting := by simp
  past := by simp [World.past]
  latest := by simp

theorem inv_reached (h : Reached cfg fmt (Careful cfg) w) : Inv cfg w := by
  induction h with
  | init => exact inv_init
  | call c hreached henabled hcareful ih => exact ih.after henabled hcareful

theorem latchRequests_settle {b : CooldownAlarm} {cycle : ℕ} {overtaken : Bool} {turn : Turn}
    (hasks : turn.asks = false) :
    (w.settle cycle overtaken b turn).latchRequests = w.latchRequests := by
  cases turn with
  | latches reason transition => cases hasks
  | returns transition => rfl
  | publishes p => cases hfired : p.isFired <;> simp [World.settle, World.latchRequests, hfired]

theorem Inv.silent {r : Readings} {t : InProgress} (h : Inv cfg w) (ht : w.tick = some t)
    (hovertaken : t.overtaken = true) (hmeets : t.point.Meets cfg r w.alarm) :
    Silent w (w.after cfg fmt (.resume r)) := by
  have hawaits := h.awaiting t ht
  have hasks : (w.alarm.resume cfg fmt r t.cycle t.point).2.asks = false := by
    cases hfired : t.point.isFired with
    | false => exact resume_asks hfired
    | true =>
        obtain ⟨cycle, point, overtaken⟩ := t
        cases point with
        | fired e =>
            have hasked := (@resume_fired_asks cfg fmt r _ _ _ _ hawaits).1
            rw [show overtaken = true from hovertaken] at hasked
            exact hasked
        | _ => cases hfired
  have hafter : w.after cfg fmt (.resume r) = w.resumed cfg fmt r t := by
    simp only [World.after, ht]
  have halarm : (w.resumed cfg fmt r t).alarm =
      (w.alarm.resume cfg fmt r t.cycle t.point).1 := by
    unfold World.resumed
    dsimp only
    cases (w.alarm.resume cfg fmt r t.cycle t.point).2 <;> rfl
  have hsubdued : Subdued w.alarm (w.alarm.resume cfg fmt r t.cycle t.point).1 :=
    resume_subdued hawaits hovertaken hmeets
  rw [hafter]
  refine ⟨?_, ?_, ?_⟩
  · rw [halarm]
    exact hsubdued.disarmed
  · rw [halarm]
    exact hsubdued.inactive
  · exact latchRequests_settle hasks

/-- In every world that careful calls lead to, the cooldown alarm keeps its promises. -/
theorem cooldown_kept (h : Reached cfg fmt (Careful cfg) w) : Kept cfg fmt (Careful cfg) w where
  idle := (inv_reached h).idle
  asked := (inv_reached h).past
  silent := fun _ t ht hovertaken _ hcareful => (inv_reached h).silent ht hovertaken (hcareful t ht)

end Runs

/-- A cooldown to 4.2 K with a watchdog. -/
def coldHead : Config where
  coldCh := "T12"
  warmCh := "T11"
  kP := 1.5
  sustainedMin := 1
  baseTempK := 4.2
  baseEpsilonK := 0.5
  autoDisarmProgress := 1.0
  etaSlipWindowMin := 60.0
  etaSlipThresholdH := 2.0
  etaHistoryLimit := 1000
  watchdogEnabled := true
  watchdogMarginK := 1.0
  watchdogLevel := "CRITICAL"
  watchdogRequiredTicks := 3
  coldStartSkipMarginK := 2.0
  safetyManager := true
  required := by decide

def noNumbers : Formats where
  percent := fun _ => ""
  tenths := fun _ => ""
  hundredths := fun _ => ""

/-- The readings at a time, with the temperature of the cold stage and the progress. -/
def readingsAt (monotonic : Timestamp) (tCold progress : Float) : Readings where
  cold := some ⟨tCold, false⟩
  warm := some ⟨tCold, false⟩
  monotonic := monotonic
  clock := fun _ => 0.0
  steady := .noPredictor
  predict := some ⟨progress, 10.0⟩
  modelFile := some ⟨20.0, 1.0, none⟩

def armedWorld : World := ({} : World).after coldHead noNumbers (.arm (readingsAt 0 300.0 0.0))

/-- The cooldown is complete at once, and the operator disarms while AUTO_DISARMED is
published. -/
def completedWorld : World :=
  (armedWorld.after coldHead noNumbers (.tick (readingsAt 0 4.3 0.0))).after coldHead noNumbers
    (.disarm fun _ => 0.0)

/-- The progress stands still for ten hours; the alarm fires and is disarmed while FIRED
is published. -/
def stalledWorld : World :=
  ((armedWorld.after coldHead noNumbers (.tick (readingsAt 36000000000 300.0 0.0))).after coldHead
    noNumbers (.resume (readingsAt 36000000000 300.0 0.0))).after coldHead noNumbers
      (.disarm fun _ => 0.0)

def AnyCall (_ : World) (_ : Call) : Prop := True

theorem armedWorld_reached (C : World → Call → Prop)
    (h : C {} (.arm (readingsAt 0 300.0 0.0))) :
    Reached coldHead noNumbers C armedWorld :=
  Reached.call _ Reached.init (le_refl (0 : ℤ)) h

theorem completedWorld_reached : Reached coldHead noNumbers AnyCall completedWorld :=
  Reached.call _ (Reached.call _ (armedWorld_reached _ trivial) ⟨rfl, le_refl (0 : ℤ)⟩ trivial)
    trivial trivial

/-- The disarmed alarm goes on to the watchdog. -/
theorem cooldown_not_kept :
    ¬ ∀ (cfg : Config) (fmt : Formats) (w : World), Reached cfg fmt AnyCall w →
      Kept cfg fmt AnyCall w := by
  intro h
  have hkept := h _ _ _ completedWorld_reached
  have hsilent := hkept.silent (readingsAt 0 4.3 0.0) ⟨0, .autoDisarmed none, true⟩ rfl rfl
    ⟨rfl, le_refl (0 : ℤ)⟩ trivial
  exact absurd (hsilent.disarmed rfl) (by decide)

/-- The entry into FIRED was overtaken, and nobody asked the safety manager. -/
theorem cooldown_kept_stalled :
    Kept coldHead noNumbers (Careful coldHead) stalledWorld ∧
      stalledWorld.firings = [⟨0, true⟩] := by
  have hlater : armedWorld.now ≤ 36000000000 := by decide
  have hfired : Reached coldHead noNumbers (Careful coldHead) stalledWorld := by
    refine Reached.call _ (Reached.call _ (Reached.call _ (armedWorld_reached _ ?_) ⟨rfl, hlater⟩
      trivial) ⟨rfl, le_refl (36000000000 : ℤ)⟩ ?_) trivial trivial
    · exact fun _ => by decide
    · intro t ht
      rw [← Option.some.inj ht]
      exact .inl rfl
  exact ⟨cooldown_kept hfired, by decide +kernel⟩

end Cooldown
end CryoDaq
