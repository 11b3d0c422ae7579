import CryoDaq.Alarms.Refinement
import CryoDaq.Alarms.Snapshot

/-!
# Activations over whole runs

A run of the manager interleaves its operations with whatever code outside does
to the events it holds.  By the refinement such a run is a run of the manager by
value, so the revision and the activation ids behave as they do there.
-/

namespace CryoDaq
namespace Alarms
namespace AlarmObjects

/-- An operation, or a change made by code outside to the objects it reaches. -/
inductive Step (s : AlarmObjects) : AlarmObjects → Prop
  | outside {m : Memory} (h : Memory.Outside s.memory m) :
      Step s { s with memory := m }
  | process (alarmId : String) (event : Option Address) (config : ProcessConfig)
      (clock : Clock) : Step s (s.process alarmId event config clock).1
  | publish (channelId : String) (severity : Severity) (ageSeconds : Float)
      (message : String) (clock : Clock) :
      Step s (s.publishDiagnosticAlarm channelId severity ageSeconds message clock).1
  | clear (channelId : String) (clock : Clock) :
      Step s (s.clearDiagnosticAlarm channelId clock)
  | acknowledge (r : AcknowledgeRequest) (clock : Clock) :
      Step s (s.acknowledge r clock).1
  | getActive : Step s s.getActive.1

theorem Step.refines {s t : AlarmObjects} (hs : Private s) (h : Step s t) :
    ∃ v, Run AlarmStateManager.Step s.view v ∧ Refines t v := by
  cases h with
  | outside hm =>
      exact ⟨_, Run.refl _, hs.refines.outside hm⟩
  | process alarmId event config clock =>
      exact ⟨_, Run.single (.process alarmId _ config clock),
        refines_process hs alarmId event config clock⟩
  | publish channelId severity ageSeconds message clock =>
      exact ⟨_, Run.single (.publish channelId severity ageSeconds message clock),
        refines_publish hs channelId severity ageSeconds message clock⟩
  | clear channelId clock =>
      exact ⟨_, Run.single (.clear channelId clock), refines_clear hs channelId clock⟩
  | acknowledge r clock =>
      exact ⟨_, Run.single (.acknowledge r clock), refines_acknowledge hs r clock⟩
  | getActive =>
      exact ⟨_, Run.refl _, refines_getActive hs⟩

theorem Step.private {s t : AlarmObjects} (hs : Private s) (h : Step s t) :
    Private t := by
  obtain ⟨v, -, hv⟩ := h.refines hs
  exact hv.isPrivate

theorem run_view {s t : AlarmObjects} (hs : Private s) (h : Run Step s t) :
    Run AlarmStateManager.Step s.view t.view := by
  refine h.simulate view Step.private (fun hs hstep => ?_) hs
  obtain ⟨v, hrun, hv⟩ := hstep.refines hs
  exact hv.view ▸ hrun

/-- The states of a manager that started without alarms. -/
def Reachable (s : AlarmObjects) : Prop :=
  ∃ m : Memory, m.Sound ∧ Run Step (new m) s

theorem Reachable.private {s : AlarmObjects} (h : Reachable s) : Private s := by
  obtain ⟨m, hm, hrun⟩ := h
  exact hrun.invariant Step.private (private_new hm)

theorem Reachable.identified {s : AlarmObjects} (h : Reachable s) :
    AlarmStateManager.Identified s.view := by
  obtain ⟨m, hm, hrun⟩ := h
  exact (run_view (private_new hm) hrun).invariant
    AlarmStateManager.Step.identified AlarmStateManager.identified_new

theorem Reachable.run {s t : AlarmObjects} (h : Reachable s) (hrun : Run Step s t) :
    Reachable t := by
  obtain ⟨m, hm, hs⟩ := h
  exact ⟨m, hm, hs.trans hrun⟩

section Runs

variable {s t u : AlarmObjects}

theorem run_revision (hs : Reachable s) (h : Run Step s t) :
    s.stateRevision ≤ t.stateRevision ∧
      (s.stateRevision = t.stateRevision → s.view.active = t.view.active) :=
  have hev := AlarmStateManager.run_evolves (run_view hs.private h)
  ⟨hev.revision, hev.unchanged⟩

theorem run_same_activation (hs : Reachable s) (hst : Run Step s t)
    (htu : Run Step t u) {i j : String} {e f : Event}
    (he : s.view.active.get? i = some e) (hf : u.view.active.get? j = some f)
    (hid : e.activationId = f.activationId) :
    i = j ∧ ∃ d, t.view.active.get? i = some d ∧ d.activationId = e.activationId := by
  have hev := AlarmStateManager.run_evolves (run_view hs.private hst)
  have hev' := AlarmStateManager.run_evolves
    (run_view (hs.run hst).private htu)
  have hbound := hs.identified.bounded i e he
  have hseq := hev.sequence
  rcases hev'.kept j f hf with ⟨d, hd, hdf, -⟩ | hlater
  · rcases hev.kept j d hd with ⟨c, hc, hcd, -⟩ | hlater
    · have hij : i = j := hs.identified.distinct i j e c he hc (by omega)
      exact ⟨hij, d, hij ▸ hd, by omega⟩
    · omega
  · omega

theorem run_refire (hs : Reachable s) (hst : Run Step s t) (htu : Run Step t u)
    {i : String} {e f : Event} (he : s.view.active.get? i = some e)
    (hclear : t.view.active.get? i = none) (hf : u.view.active.get? i = some f) :
    e.activationId < f.activationId := by
  have hev := AlarmStateManager.run_evolves (run_view hs.private hst)
  have hev' := AlarmStateManager.run_evolves
    (run_view (hs.run hst).private htu)
  have hbound := hs.identified.bounded i e he
  have hseq := hev.sequence
  rcases hev'.kept i f hf with ⟨d, hd, -⟩ | hlater
  · rw [hclear] at hd
    cases hd
  · omega

theorem acknowledge_only (hs : Private s) (r : AcknowledgeRequest) (clock : Clock)
    {n : ℤ} (hn : r.expectedActivationId = some n) {i : String} {e f : Event}
    (he : s.view.active.get? i = some e)
    (hf : (s.acknowledge r clock).1.view.active.get? i = some f)
    (hne : f ≠ e) : i = r.alarmId ∧ (e.activationId : ℤ) = n := by
  rw [(refines_acknowledge hs r clock).view] at hf
  rcases s.view.acknowledge_cases r clock with hsame | ⟨d, hd, hexp, hactive, -⟩
  · rw [hsame, he] at hf
    exact absurd (Option.some.inj hf).symm hne
  · rw [hactive, Dict.get?_set] at hf
    by_cases hi : i = r.alarmId
    · have hde : d = e := by
        rw [hi, hd] at he
        exact Option.some.inj he
      exact ⟨hi, hde ▸ (hexp n hn).symm⟩
    · rw [if_neg hi, he] at hf
      exact absurd (Option.some.inj hf).symm hne

end Runs

/-- Revision, activation ids and acknowledgements over every run. -/
theorem alarm_identity_faithful (sha256 : ByteArray → String) {s : AlarmObjects}
    (hs : Reachable s) :
    (∀ t, Run Step s t →
      s.stateRevision ≤ t.stateRevision ∧
      (s.stateRevision = t.stateRevision →
        s.view.active = t.view.active ∧
        s.view.snapshotActiveCanonical sha256 =
          t.view.snapshotActiveCanonical sha256)) ∧
    (∀ t u i j e f, Run Step s t → Run Step t u →
      s.view.active.get? i = some e → u.view.active.get? j = some f →
      e.activationId = f.activationId →
      i = j ∧ ∃ d, t.view.active.get? i = some d ∧
        d.activationId = e.activationId) ∧
    (∀ t u i e f, Run Step s t → Run Step t u →
      s.view.active.get? i = some e → t.view.active.get? i = none →
      u.view.active.get? i = some f → e.activationId < f.activationId) ∧
    (∀ r clock n i e f, r.expectedActivationId = some n →
      s.view.active.get? i = some e →
      (s.acknowledge r clock).1.view.active.get? i = some f → f ≠ e →
      i = r.alarmId ∧ (e.activationId : ℤ) = n) := by
  refine ⟨fun t h => ?_, ?_, ?_, ?_⟩
  · obtain ⟨hle, hactive⟩ := run_revision hs h
    refine ⟨hle, fun heq => ⟨hactive heq, ?_⟩⟩
    have hrevision : s.view.stateRevision = t.view.stateRevision := heq
    unfold AlarmStateManager.snapshotActiveCanonical
    rw [hactive heq, hrevision]
  · intro t u i j e f hst htu he hf hid
    exact run_same_activation hs hst htu he hf hid
  · intro t u i e f hst htu he hclear hf
    exact run_refire hs hst htu he hclear hf
  · intro r clock n i e f hn he hf hne
    exact acknowledge_only hs.private r clock hn he hf hne

def fired : AlarmObjects :=
  ((new Memory.empty).publishDiagnosticAlarm "T1" .critical 60.0 "stuck" fun _ => 0.0).1

def refired : AlarmObjects :=
  ((fired.clearDiagnosticAlarm "T1" fun _ => 1.0).publishDiagnosticAlarm "T1" .critical 60.0
    "stuck" fun _ => 2.0).1

def refiredRequest : AcknowledgeRequest where
  alarmId := diagnosticId "T1"
  operator := "operator"
  expectedActivationId := some 2

/-- The alarm fires, clears, fires again and is acknowledged. -/
theorem alarm_identity_faithful_refired : ∃ e f g,
    fired.view.active.get? (diagnosticId "T1") = some e ∧
    refired.view.active.get? (diagnosticId "T1") = some f ∧
    fired.stateRevision ≤ refired.stateRevision ∧ e.activationId < f.activationId ∧
    (refired.acknowledge refiredRequest fun _ => 3.0).1.view.active.get? (diagnosticId "T1") =
      some g ∧ g ≠ f ∧ (f.activationId : ℤ) = 2 := by
  have hfired : Reachable fired :=
    ⟨Memory.empty, Memory.sound_empty, Run.single (.publish "T1" .critical 60.0 "stuck" _)⟩
  have hcleared : Run Step fired (fired.clearDiagnosticAlarm "T1" fun _ => 1.0) :=
    Run.single (.clear "T1" _)
  have hrefired : Run Step (fired.clearDiagnosticAlarm "T1" fun _ => 1.0) refired :=
    Run.single (.publish "T1" .critical 60.0 "stuck" _)
  obtain ⟨hrevision, _, hlater, _⟩ := alarm_identity_faithful (fun _ => "") hfired
  have hacknowledged := (alarm_identity_faithful (fun _ => "") (s := refired)
    ⟨Memory.empty, Memory.sound_empty, (Run.single (.publish "T1" .critical 60.0 "stuck" _)).trans
      (hcleared.trans hrefired)⟩).2.2.2
  have hne : ∀ {e f : Event}, e.acknowledged ≠ f.acknowledged → e ≠ f :=
    fun h heq => h (congrArg AlarmEvent.acknowledged heq)
  refine ⟨_, _, _, rfl, rfl, (hrevision _ (hcleared.trans hrefired)).1,
    hlater _ _ (diagnosticId "T1") _ _ hcleared hrefired rfl rfl rfl, rfl, ?_,
    (hacknowledged refiredRequest (fun _ => 3.0) 2 (diagnosticId "T1") _ _ rfl rfl rfl ?_).2⟩
  · exact hne (by decide)
  · exact hne (by decide)

end AlarmObjects
end Alarms
end CryoDaq
