import CryoDaq.Alarms.Identity
import CryoDaq.Alarms.Threshold

/-!
# What clears a threshold alarm

**Activation.**  An inactive alarm becomes active at a tick through the first of
its channels that is in violation; the stored event names this channel alone.

**Frame.**  Whatever the manager does afterwards, the stored event keeps its
channel as long as the activation lasts.

**Clearing.**  A tick in phase clears the alarm only when this channel has a
usable value outside the deadband and no channel with a usable value is in
violation.

**Phase.**  A tick out of phase clears the alarm whatever the channels show.
-/

namespace CryoDaq
namespace Alarms

variable (format : String → String → Float → Except PyError String)

section Channels

variable (o : Observation) (cfg : ThresholdConfig)

/-- The channel has a usable value that violates the threshold. -/
def inViolation (channel : String) : Bool :=
  match o.state channel with
  | none => false
  | some state =>
      state.isUsable &&
        match checkThresholdChannel o cfg channel with
        | .ok checked => checked.1
        | .error _ => false

/-- The channel has a usable value, without violation and outside the
deadband. -/
def provenClear (channel : String) : Bool :=
  match o.state channel with
  | none => false
  | some state =>
      state.isUsable &&
        match checkThresholdChannel o cfg channel with
        | .ok checked =>
            !checked.1 &&
              match inDeadband cfg checked.2 with
              | .ok inside => !inside
              | .error _ => false
        | .error _ => false

variable {alarmId channel : String} {active : Option (List String)}

theorem eventFor_some {value : Float} {answer : Option Event}
    (h : eventFor format o cfg alarmId channel value = .ok answer) :
    ∃ event, answer = some event ∧ event.channels = [channel] ∧
      event.evaluatorError = false := by
  unfold eventFor at h
  cases hmsg : formatMessage format cfg.message channel value with
  | error e =>
      rw [hmsg] at h
      cases h
  | ok message =>
      rw [hmsg] at h
      cases h
      exact ⟨_, rfl, rfl, rfl⟩

/-- A channel that calls for nothing is not in violation; a triggering one is
proven clear. -/
theorem evalChannel_none
    (h : evalChannel format o cfg alarmId active channel = .ok none) :
    inViolation o cfg channel = false ∧
      (active.any (channel ∈ ·) = true → provenClear o cfg channel = true) := by
  have hevent : ∀ value, eventFor format o cfg alarmId channel value ≠ .ok none := by
    intro value hval
    obtain ⟨event, hcontra, -⟩ := eventFor_some format o cfg hval
    cases hcontra
  unfold evalChannel at h
  unfold inViolation provenClear
  cases hstate : o.state channel with
  | none =>
      cases htrig : active.any (channel ∈ ·) with
      | false =>
          exact ⟨rfl, fun hcontra => (by cases hcontra)⟩
      | true =>
          simp only [hstate, htrig, if_true] at h
          cases h
  | some state =>
      cases husable : state.isUsable with
      | false =>
          cases htrig : active.any (channel ∈ ·) with
          | false =>
              exact ⟨by simp [husable], fun hcontra => (by cases hcontra)⟩
          | true =>
              simp only [hstate, husable, htrig, Bool.false_eq_true, if_false,
                if_true] at h
              exact absurd h (hevent state.value)
      | true =>
          simp only [hstate, husable, if_true] at h
          unfold evalUsable at h
          cases hcheck : checkThresholdChannel o cfg channel with
          | error e =>
              simp only [hcheck] at h
              cases h
          | ok checked =>
              simp only [hcheck] at h
              cases hviol : checked.1 with
              | true =>
                  simp only [hviol, if_true] at h
                  exact absurd h (hevent checked.2)
              | false =>
                  refine ⟨by simp [husable, hviol], fun htrig => ?_⟩
                  simp only [hviol, htrig, Bool.false_eq_true, if_false,
                    if_true] at h
                  cases hdead : inDeadband cfg checked.2 with
                  | error e =>
                      simp only [hdead] at h
                      cases h
                  | ok inside =>
                      cases inside with
                      | false =>
                          simp [husable, hviol, hdead]
                      | true =>
                          simp only [hdead] at h
                          exact absurd h (hevent checked.2)

theorem evalChannel_inactive {event : Event}
    (h : evalChannel format o cfg alarmId none channel = .ok (some event)) :
    inViolation o cfg channel = true ∧ event.channels = [channel] ∧
      event.evaluatorError = false := by
  unfold evalChannel at h
  unfold inViolation
  cases hstate : o.state channel with
  | none =>
      simp only [hstate, Option.any_none, Bool.false_eq_true, if_false] at h
      cases h
  | some state =>
      cases husable : state.isUsable with
      | false =>
          simp only [hstate, husable, Option.any_none, Bool.false_eq_true,
            if_false] at h
          cases h
      | true =>
          simp only [hstate, husable, Option.any_none, if_true] at h
          unfold evalUsable at h
          cases hcheck : checkThresholdChannel o cfg channel with
          | error e =>
              simp only [hcheck] at h
              cases h
          | ok checked =>
              simp only [hcheck, Bool.false_eq_true, if_false] at h
              cases hviol : checked.1 with
              | true =>
                  simp only [hviol, if_true] at h
                  obtain ⟨found, hfound, hchannels, herror⟩ :=
                    eventFor_some format o cfg h
                  cases hfound
                  exact ⟨by simp [husable, hviol], hchannels, herror⟩
              | false =>
                  simp only [hviol, Bool.false_eq_true, if_false] at h
                  cases h

theorem evalThreshold_none {channels : List String}
    (h : evalThreshold format o cfg alarmId active channels = .ok none) :
    ∀ c ∈ channels, evalChannel format o cfg alarmId active c = .ok none := by
  induction channels with
  | nil =>
      intro c hc
      cases hc
  | cons first rest ih =>
      unfold evalThreshold at h
      cases hfirst : evalChannel format o cfg alarmId active first with
      | error e =>
          simp only [hfirst] at h
          cases h
      | ok answer =>
          cases answer with
          | some event =>
              simp only [hfirst] at h
              cases h
          | none =>
              simp only [hfirst] at h
              intro c hc
              rcases List.mem_cons.mp hc with rfl | hc
              · exact hfirst
              · exact ih h c hc

theorem evalThreshold_inactive {channels : List String} {event : Event}
    (h : evalThreshold format o cfg alarmId none channels = .ok (some event)) :
    ∃ before c after, channels = before ++ c :: after ∧
      inViolation o cfg c = true ∧
      (∀ b ∈ before, inViolation o cfg b = false) ∧ event.channels = [c] ∧
      event.evaluatorError = false := by
  induction channels with
  | nil =>
      cases h
  | cons first rest ih =>
      unfold evalThreshold at h
      cases hfirst : evalChannel format o cfg alarmId none first with
      | error e =>
          simp only [hfirst] at h
          cases h
      | ok answer =>
          cases answer with
          | some found =>
              simp only [hfirst] at h
              cases h
              obtain ⟨hviol, hchannels, herror⟩ :=
                evalChannel_inactive format o cfg hfirst
              exact ⟨[], first, rest, rfl, hviol, fun b hb => (by cases hb),
                hchannels, herror⟩
          | none =>
              simp only [hfirst] at h
              obtain ⟨before, c, after, hsplit, hviol, hbefore, hchannels, herror⟩ :=
                ih h
              refine ⟨first :: before, c, after, by rw [hsplit]; rfl, hviol, ?_,
                hchannels, herror⟩
              intro b hb
              rcases List.mem_cons.mp hb with rfl | hb
              · exact (evalChannel_none format o cfg hfirst).1
              · exact hbefore b hb

end Channels

section Tick

variable {s : AlarmStateManager} {alarmId : String} {event : Option Event}
  {config : ProcessConfig} {clock : Clock}

theorem process_activates {e : Event} (hout : s.active.get? alarmId = none)
    (hon : (s.process alarmId event config clock).1.active.get? alarmId = some e) :
    ∃ given, event = some given ∧ given.evaluatorError = false ∧
      e.channels = given.channels := by
  cases event with
  | none =>
      simp only [AlarmStateManager.process, AlarmStateManager.settle, hout] at hon
      cases hon
  | some given =>
      refine ⟨given, rfl, ?_⟩
      unfold AlarmStateManager.process at hon
      cases herror : given.evaluatorError with
      | true =>
          simp only [herror, if_true, AlarmStateManager.markError, hout] at hon
          cases hon
      | false =>
          refine ⟨rfl, ?_⟩
          simp only [herror, hout, Option.isSome_none, Bool.false_eq_true,
            if_false] at hon
          unfold AlarmStateManager.raise at hon
          cases hsust : config.sustainedS with
          | none =>
              simp only [hsust, AlarmStateManager.activate,
                AlarmStateManager.active_record, AlarmStateManager.markActiveMutation,
                Dict.get?_set_self, Option.some.injEq] at hon
              rw [← hon]
          | some limit =>
              simp only [hsust] at hon
              cases hheld : (sustained s.sustainedSince alarmId limit clock).2 with
              | error err =>
                  simp only [hheld, hout] at hon
                  cases hon
              | ok long =>
                  cases long with
                  | false =>
                      simp only [hheld, hout] at hon
                      cases hon
                  | true =>
                      simp only [hheld, AlarmStateManager.activate,
                        AlarmStateManager.active_record,
                        AlarmStateManager.markActiveMutation,
                        Dict.get?_set_self, Option.some.injEq] at hon
                      rw [← hon]

theorem process_clears {e : Event} (hin : s.active.get? alarmId = some e)
    (hoff : (s.process alarmId event config clock).1.active.get? alarmId = none) :
    event = none := by
  cases event with
  | none =>
      rfl
  | some given =>
      have hmark : ∀ error, (s.markError alarmId error).active.get? alarmId ≠ none := by
        intro error
        unfold AlarmStateManager.markError
        simp only [hin]
        split
        · simp [hin]
        · simp [AlarmStateManager.amend, AlarmStateManager.markActiveMutation]
      unfold AlarmStateManager.process at hoff
      cases herror : given.evaluatorError with
      | true =>
          simp only [herror, if_true] at hoff
          exact absurd hoff (hmark true)
      | false =>
          simp only [herror, hin, Option.isSome_some, Bool.false_eq_true, if_false,
            if_true] at hoff
          exact absurd hoff (hmark false)

theorem settle_clears :
    (s.settle alarmId config clock).1.active.get? alarmId = none := by
  unfold AlarmStateManager.settle
  cases hin : s.active.get? alarmId with
  | none =>
      simp [hin]
  | some held =>
      simp [hin, AlarmStateManager.checkHysteresisCleared, AlarmStateManager.deactivate,
        AlarmStateManager.markActiveMutation]

variable (cfg : AlarmConfig)

theorem step_tick (t : Tick) (s : AlarmStateManager) :
    AlarmStateManager.Step s (tickAlarm format cfg t s).1 := by
  unfold tickAlarm
  split
  · exact .process cfg.alarmId _ cfg.config.process t.clock
  · exact .process cfg.alarmId none cfg.config.process t.clock

theorem tick_activates {t : Tick} {e : Event}
    (hout : s.active.get? cfg.alarmId = none)
    (hon : (tickAlarm format cfg t s).1.active.get? cfg.alarmId = some e) :
    ∃ before c after, cfg.config.channels = before ++ c :: after ∧
      inViolation t.observation cfg.config c = true ∧
      (∀ b ∈ before, inViolation t.observation cfg.config b = false) ∧
      e.channels = [c] := by
  unfold tickAlarm at hon
  split at hon
  · obtain ⟨given, hgiven, -, hchannels⟩ := process_activates hout hon
    rw [hout, Option.map_none] at hgiven
    unfold evaluate at hgiven
    cases heval : evalThreshold format t.observation cfg.config cfg.alarmId none
        cfg.config.channels with
    | error err =>
        simp only [heval, Option.isSome_none, Bool.false_eq_true, if_false] at hgiven
        cases hgiven
    | ok answer =>
        simp only [heval] at hgiven
        subst hgiven
        obtain ⟨before, c, after, hsplit, hviol, hbefore, hfound, -⟩ :=
          evalThreshold_inactive format t.observation cfg.config heval
        exact ⟨before, c, after, hsplit, hviol, hbefore, hchannels.trans hfound⟩
  · obtain ⟨given, hgiven, -⟩ := process_activates hout hon
    cases hgiven

/-- A tick in phase that clears the alarm has seen every channel call for
nothing. -/
theorem tick_clears {t : Tick} {e : Event} (hphase : cfg.inPhase t.phase = true)
    (hin : s.active.get? cfg.alarmId = some e)
    (hoff : (tickAlarm format cfg t s).1.active.get? cfg.alarmId = none) :
    ∀ c ∈ cfg.config.channels,
      inViolation t.observation cfg.config c = false ∧
      (c ∈ e.channels → provenClear t.observation cfg.config c = true) := by
  unfold tickAlarm at hoff
  rw [if_pos hphase] at hoff
  have hnone := process_clears hin hoff
  rw [hin, Option.map_some] at hnone
  unfold evaluate at hnone
  cases heval : evalThreshold format t.observation cfg.config cfg.alarmId
      (some e.channels) cfg.config.channels with
  | error err =>
      simp only [heval, Option.isSome_some, if_true] at hnone
      cases hnone
  | ok answer =>
      simp only [heval] at hnone
      subst hnone
      intro c hc
      have hcalls := evalThreshold_none format t.observation cfg.config heval c hc
      obtain ⟨hviol, hclear⟩ :=
        evalChannel_none format t.observation cfg.config hcalls
      exact ⟨hviol, fun hmem => hclear (by simpa using hmem)⟩

theorem tick_out_of_phase {t : Tick} (hphase : cfg.inPhase t.phase = false) :
    (tickAlarm format cfg t s).1.active.get? cfg.alarmId = none ∧
      (tickAlarm format cfg t s).2 = .ok (none, none) := by
  have hout : ¬ cfg.inPhase t.phase = true := by simp [hphase]
  unfold tickAlarm
  rw [if_neg hout]
  exact ⟨settle_clears, rfl⟩

/-- A tick in phase clears an active alarm only when the channel that activated
it is proven clear and no channel is in violation; a tick out of phase clears
it, and does so for any states of the channels. -/
theorem tick_clears_on_evidence {s₀ s₂ : AlarmStateManager} {first : Tick}
    {e₁ e₂ : Event} (h₀ : Run AlarmStateManager.Step .new s₀)
    (hout : s₀.active.get? cfg.alarmId = none)
    (hon : (tickAlarm format cfg first s₀).1.active.get? cfg.alarmId = some e₁)
    (hrun : Run AlarmStateManager.Step (tickAlarm format cfg first s₀).1 s₂)
    (hin : s₂.active.get? cfg.alarmId = some e₂)
    (hsame : e₂.activationId = e₁.activationId) (last : Tick) :
    (cfg.inPhase last.phase = true →
      (tickAlarm format cfg last s₂).1.active.get? cfg.alarmId = none →
      ∃ before c after, cfg.config.channels = before ++ c :: after ∧
        inViolation first.observation cfg.config c = true ∧
        (∀ b ∈ before, inViolation first.observation cfg.config b = false) ∧
        provenClear last.observation cfg.config c = true ∧
        ∀ d ∈ cfg.config.channels,
          inViolation last.observation cfg.config d = false) ∧
    (cfg.inPhase last.phase = false → ∀ o : Observation,
      (tickAlarm format cfg { last with observation := o } s₂).1.active.get?
        cfg.alarmId = none ∧
      (tickAlarm format cfg { last with observation := o } s₂).2 =
        .ok (none, none)) := by
  refine ⟨fun hphase hoff => ?_, fun hphase o => tick_out_of_phase format cfg hphase⟩
  obtain ⟨before, c, after, hsplit, hviol, hbefore, hstored⟩ :=
    tick_activates format cfg hout hon
  have hidentified : (tickAlarm format cfg first s₀).1.Identified :=
    (h₀.tail (step_tick format cfg first s₀)).invariant
      AlarmStateManager.Step.identified AlarmStateManager.identified_new
  have hbound := hidentified.bounded _ _ hon
  have hchannels : e₂.channels = [c] := by
    rcases (AlarmStateManager.run_evolves hrun).kept _ _ hin with
      ⟨d, hd, -, hdc⟩ | hlater
    · rw [hon] at hd
      cases hd
      exact hdc.symm.trans hstored
    · omega
  have hclear := tick_clears format cfg hphase hin hoff
  have hc : c ∈ cfg.config.channels := by simp [hsplit]
  refine ⟨before, c, after, hsplit, hviol, hbefore, ?_, fun d hd => (hclear d hd).1⟩
  exact (hclear c hc).2 (by simp [hchannels])

end Tick

section HandOver

def afterTicks (cfg : AlarmConfig) (ticks : List Tick) (s : AlarmStateManager) :
    AlarmStateManager :=
  ticks.foldl (fun s t => (tickAlarm format cfg t s).1) s

/-- A tick that clears the alarm has evidence for every channel that was in
violation since the activation. -/
def ClearsOnEvidence (cfg : AlarmConfig) : Prop :=
  ∀ (s : AlarmStateManager) (first : Tick) (middle : List Tick) (last : Tick),
    Run AlarmStateManager.Step .new s → s.active.get? cfg.alarmId = none →
    (∀ k ≤ middle.length,
      ((afterTicks format cfg (first :: middle.take k) s).active.get?
        cfg.alarmId).isSome = true) →
    (afterTicks format cfg (first :: middle ++ [last]) s).active.get?
      cfg.alarmId = none →
    ∀ c ∈ cfg.config.channels,
      (∃ t ∈ first :: middle, inViolation t.observation cfg.config c = true) →
      provenClear last.observation cfg.config c = true

/-- Two channels above 10 with a deadband of 2. -/
def twoChannels (phaseFilter : Option (List String)) : AlarmConfig where
  alarmId := "A"
  config :=
    { channels := ["T1", "T2"], message := "high"
      threshold := some (.number (.float 10.0))
      hysteresis := some (.number (.float 2.0)) }
  phaseFilter := phaseFilter

/-- A tick with the values of the two channels. -/
def readings (phase : Option String) (first second : Float) : Tick where
  phase := phase
  observation :=
    { state := fun c => if c = "T1" then some { value := first }
        else if c = "T2" then some { value := second } else none
      faultCount := fun _ => 0
      setpoint := fun _ => .error .keyError
      now := 0.0 }
  clock := fun _ => 0.0

/-- The event stored when `T1` reads 12. -/
def raised : Event where
  alarmId := "A"
  level := "WARNING"
  message := "high"
  triggeredAt := 0.0
  channels := ["T1"]
  values := Dict.ofList [("T1", 12.0)]
  activationId := 1

/-- The alarm of the cooldown phase, raised by `T1`: cleared in phase at 5, and
out of phase although `T1` still reads 12. -/
theorem tick_clears_on_evidence_twoChannels :
    (∃ before c after,
      (twoChannels (some ["cooldown"])).config.channels = before ++ c :: after ∧
      inViolation (readings (some "cooldown") 12.0 5.0).observation
        (twoChannels (some ["cooldown"])).config c = true ∧
      (∀ b ∈ before, inViolation (readings (some "cooldown") 12.0 5.0).observation
        (twoChannels (some ["cooldown"])).config b = false) ∧
      provenClear (readings (some "cooldown") 5.0 5.0).observation
        (twoChannels (some ["cooldown"])).config c = true ∧
      ∀ d ∈ (twoChannels (some ["cooldown"])).config.channels,
        inViolation (readings (some "cooldown") 5.0 5.0).observation
          (twoChannels (some ["cooldown"])).config d = false) ∧
    ((tickAlarm (fun t _ _ => .ok t) (twoChannels (some ["cooldown"]))
        (readings (some "warmup") 12.0 5.0)
        (tickAlarm (fun t _ _ => .ok t) (twoChannels (some ["cooldown"]))
          (readings (some "cooldown") 12.0 5.0) .new).1).1.active.get? "A" = none ∧
      (tickAlarm (fun t _ _ => .ok t) (twoChannels (some ["cooldown"]))
        (readings (some "warmup") 12.0 5.0)
        (tickAlarm (fun t _ _ => .ok t) (twoChannels (some ["cooldown"]))
          (readings (some "cooldown") 12.0 5.0) .new).1).2 = .ok (none, none)) := by
  have hon : (tickAlarm (fun t _ _ => .ok t) (twoChannels (some ["cooldown"]))
      (readings (some "cooldown") 12.0 5.0) .new).1.active.get? "A" = some raised := by
    decide
  constructor
  · exact (tick_clears_on_evidence _ (twoChannels (some ["cooldown"])) (Run.refl _) rfl
      hon (Run.refl _) hon rfl (readings (some "cooldown") 5.0 5.0)).1 rfl (by decide)
  · exact (tick_clears_on_evidence _ (twoChannels (some ["cooldown"])) (Run.refl _) rfl
      hon (Run.refl _) hon rfl (readings (some "warmup") 5.0 5.0)).2 rfl
      (readings (some "warmup") 12.0 5.0).observation

/-- `T1` hands its violation over to `T2`, which is inside its deadband at the
end; and an alarm filtered by phase is cleared out of phase. -/
theorem hand_over_clears :
    ¬ ClearsOnEvidence (fun t _ _ => .ok t) (twoChannels none) ∧
    ¬ ClearsOnEvidence (fun t _ _ => .ok t) (twoChannels (some ["cooldown"])) := by
  constructor
  · intro h
    have hclear := h .new (readings none 12.0 5.0) [readings none 5.0 12.0]
      (readings none 5.0 9.0) (Run.refl _) rfl (by decide) (by decide) "T2"
      (by decide) ⟨readings none 5.0 12.0, by simp, by decide⟩
    revert hclear
    decide
  · intro h
    have hclear := h .new (readings (some "cooldown") 12.0 5.0) []
      (readings (some "warmup") 12.0 5.0) (Run.refl _) rfl (by decide) (by decide)
      "T1" (by decide) ⟨readings (some "cooldown") 12.0 5.0, by simp, by decide⟩
    revert hclear
    decide

end HandOver

end Alarms
end CryoDaq
