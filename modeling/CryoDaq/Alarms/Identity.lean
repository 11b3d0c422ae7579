import CryoDaq.Alarms.Manager
import CryoDaq.System.Run
import Mathlib.Order.Nat
import Mathlib.Tactic.Common

/-!
# Activations and the state revision

**One step.**  Whatever an operation of the manager does, it leaves the active
map alone, changes one active event without touching its activation id, adds an
alarm under the next activation id, or removes one (`Change`).

**Runs.**  From this: the revision never decreases, and where it is unchanged
so is the active map; an activation id belongs to one activation, and a later
activation of any alarm has a larger one (`Evolves`).
-/

namespace CryoDaq
namespace Alarms
namespace AlarmStateManager

/-- What a step does to the active map, the revision and the sequence. -/
inductive Change (s t : AlarmStateManager) : Prop
  | quiet (active : t.active = s.active)
      (revision : t.stateRevision = s.stateRevision)
      (sequence : t.activationSequence = s.activationSequence)
  | amended (alarmId : String) (held new : Event)
      (was : s.active.get? alarmId = some held)
      (same : new.activationId = held.activationId)
      (channels : new.channels = held.channels)
      (active : t.active = s.active.set alarmId new)
      (revision : t.stateRevision = s.stateRevision + 1)
      (sequence : t.activationSequence = s.activationSequence)
  | activated (alarmId : String) (new : Event)
      (was : s.active.get? alarmId = none)
      (fresh : new.activationId = s.activationSequence + 1)
      (active : t.active = s.active.set alarmId new)
      (revision : t.stateRevision = s.stateRevision + 1)
      (sequence : t.activationSequence = s.activationSequence + 1)
  | deactivated (alarmId : String)
      (active : t.active = s.active.erase alarmId)
      (revision : t.stateRevision = s.stateRevision + 1)
      (sequence : t.activationSequence = s.activationSequence)

inductive Step (s : AlarmStateManager) : AlarmStateManager → Prop
  | process (alarmId : String) (event : Option Event) (config : ProcessConfig)
      (clock : Clock) : Step s (s.process alarmId event config clock).1
  | publish (channelId : String) (severity : Severity) (ageSeconds : Float)
      (message : String) (clock : Clock) :
      Step s (s.publishDiagnosticAlarm channelId severity ageSeconds message clock).1
  | clear (channelId : String) (clock : Clock) :
      Step s (s.clearDiagnosticAlarm channelId clock)
  | acknowledge (r : AcknowledgeRequest) (clock : Clock) :
      Step s (s.acknowledge r clock).1

section Operations

variable (s : AlarmStateManager)

theorem Change.rfl' : Change s s := .quiet rfl rfl rfl

theorem change_amend {alarmId : String} {held new : Event}
    (was : s.active.get? alarmId = some held)
    (same : new.activationId = held.activationId)
    (channels : new.channels = held.channels) : Change s (s.amend alarmId new) :=
  .amended alarmId held new was same channels rfl rfl rfl

theorem change_activate {alarmId : String} (event : Event)
    (was : s.active.get? alarmId = none) : Change s (s.activate alarmId event) :=
  .activated alarmId _ was rfl rfl rfl rfl

theorem change_deactivate (alarmId level : String) (now : Float) :
    Change s (s.deactivate alarmId level now) :=
  .deactivated alarmId rfl rfl rfl

theorem Change.recorded {s t : AlarmStateManager} (h : Change s t)
    (entry : HistoryEntry) : Change s (t.record entry) := by
  cases h with
  | quiet active revision sequence =>
      exact .quiet (by simp [active]) (by simp [revision]) (by simp [sequence])
  | amended alarmId held new was same channels active revision sequence =>
      exact .amended alarmId held new was same channels (by simp [active])
        (by simp [revision]) (by simp [sequence])
  | activated alarmId new was fresh active revision sequence =>
      exact .activated alarmId new was fresh (by simp [active])
        (by simp [revision]) (by simp [sequence])
  | deactivated alarmId active revision sequence =>
      exact .deactivated alarmId (by simp [active]) (by simp [revision])
        (by simp [sequence])

theorem change_markError (alarmId : String) (error : Bool) :
    Change s (s.markError alarmId error) := by
  unfold markError
  cases hget : s.active.get? alarmId with
  | none =>
      exact Change.rfl' s
  | some held =>
      by_cases hsame : held.evaluatorError = error
      · simp only [if_pos hsame]
        exact Change.rfl' s
      · simp only [if_neg hsame]
        exact s.change_amend hget rfl rfl

theorem Change.withSustained {since : Dict String Float} {t : AlarmStateManager}
    (h : Change { s with sustainedSince := since } t) : Change s t := by
  cases h with
  | quiet active revision sequence =>
      exact .quiet active revision sequence
  | amended alarmId held new was same channels active revision sequence =>
      exact .amended alarmId held new was same channels active revision sequence
  | activated alarmId new was fresh active revision sequence =>
      exact .activated alarmId new was fresh active revision sequence
  | deactivated alarmId active revision sequence =>
      exact .deactivated alarmId active revision sequence

theorem change_raise {alarmId : String} (event : Event) (config : ProcessConfig)
    (clock : Clock) (was : s.active.get? alarmId = none) :
    Change s (s.raise alarmId event config clock).1 := by
  unfold raise
  cases config.sustainedS with
  | none =>
      exact Change.withSustained s (change_activate _ event was)
  | some limit =>
      cases hheld : (sustained s.sustainedSince alarmId limit clock).2 with
      | error e =>
          simp only [hheld]
          exact .quiet rfl rfl rfl
      | ok long =>
          cases long with
          | false =>
              simp only [hheld]
              exact .quiet rfl rfl rfl
          | true =>
              simp only [hheld]
              exact Change.withSustained s (change_activate _ event was)

theorem change_settle (alarmId : String) (config : ProcessConfig) (clock : Clock) :
    Change s (s.settle alarmId config clock).1 := by
  unfold settle
  cases hget : s.active.get? alarmId with
  | none =>
      simp only [hget]
      exact .quiet rfl rfl rfl
  | some held =>
      simp only [hget, checkHysteresisCleared, Bool.not_true, Bool.and_false]
      exact Change.withSustained s (change_deactivate _ alarmId held.level (clock 0))

theorem change_process (alarmId : String) (event : Option Event)
    (config : ProcessConfig) (clock : Clock) :
    Change s (s.process alarmId event config clock).1 := by
  cases event with
  | none =>
      exact s.change_settle alarmId config clock
  | some event =>
      unfold process
      by_cases herror : event.evaluatorError = true
      · simpa [herror] using s.change_markError alarmId true
      · cases hget : s.active.get? alarmId with
        | none =>
            simpa [herror, hget] using s.change_raise event config clock hget
        | some held =>
            simpa [herror, hget] using s.change_markError alarmId false

theorem change_publish (channelId : String) (severity : Severity)
    (ageSeconds : Float) (message : String) (clock : Clock) :
    Change s
      (s.publishDiagnosticAlarm channelId severity ageSeconds message clock).1 := by
  unfold publishDiagnosticAlarm
  cases hget : s.active.get? (diagnosticId channelId) with
  | none =>
      simp only [hget]
      exact s.change_activate _ hget
  | some existing =>
      by_cases hup : severity.upper = "CRITICAL" ∧ existing.level = "WARNING"
      · simp only [hget, if_pos hup]
        apply Change.recorded
        exact s.change_amend hget rfl rfl
      · simp only [hget, if_neg hup]
        exact Change.rfl' s

theorem change_clear (channelId : String) (clock : Clock) :
    Change s (s.clearDiagnosticAlarm channelId clock) := by
  unfold clearDiagnosticAlarm
  by_cases h : (s.active.get? (diagnosticId channelId)).isSome = true
  · simpa [h] using s.change_deactivate (diagnosticId channelId) "INFO" (clock 0)
  · simpa [h] using Change.rfl' s

theorem acknowledge_cases (r : AcknowledgeRequest) (clock : Clock) :
    (s.acknowledge r clock).1 = s ∨
      ∃ e, s.active.get? r.alarmId = some e ∧
        (∀ n, r.expectedActivationId = some n → n = (e.activationId : ℤ)) ∧
        (s.acknowledge r clock).1.active =
          s.active.set r.alarmId (acknowledgedEvent e r clock) ∧
        Change s (s.acknowledge r clock).1 := by
  unfold acknowledge
  by_cases hbad : (r.acknowledgedAt.any (!validTime ·) ||
      r.requestId.any (!validRequestId ·)) = true
  · left
    rw [if_pos hbad]
  · rw [if_neg hbad]
    cases hget : s.active.get? r.alarmId with
    | none =>
        exact .inl rfl
    | some e =>
        by_cases hexp : r.expectedActivationId.any (· ≠ (e.activationId : ℤ)) = true
        · left
          simp only [hexp, if_true]
        · by_cases hack : e.acknowledged = true
          · left
            simp only [hexp, hack, if_true, Bool.false_eq_true, if_false]
          · right
            refine ⟨e, rfl, ?_, ?_, ?_⟩
            · intro n hn
              by_contra hne
              exact hexp (by simp [hn, hne])
            · simp only [hexp, hack, Bool.false_eq_true, if_false]
              rfl
            · simp only [hexp, hack, Bool.false_eq_true, if_false]
              apply Change.recorded
              exact s.change_amend hget rfl rfl

end Operations

theorem Step.change {s t : AlarmStateManager} (h : Step s t) : Change s t := by
  cases h with
  | process alarmId event config clock =>
      exact s.change_process alarmId event config clock
  | publish channelId severity ageSeconds message clock =>
      exact s.change_publish channelId severity ageSeconds message clock
  | clear channelId clock =>
      exact s.change_clear channelId clock
  | acknowledge r clock =>
      rcases s.acknowledge_cases r clock with hsame | ⟨e, -, -, -, hchange⟩
      · rw [hsame]
        exact Change.rfl' s
      · exact hchange

/-- Activation ids are assigned from one on, to one alarm each. -/
structure Identified (s : AlarmStateManager) : Prop where
  bounded : ∀ i e, s.active.get? i = some e →
    1 ≤ e.activationId ∧ e.activationId ≤ s.activationSequence
  distinct : ∀ i j e f, s.active.get? i = some e → s.active.get? j = some f →
    e.activationId = f.activationId → i = j

/-- What holds between an earlier and a later state. -/
structure Evolves (s t : AlarmStateManager) : Prop where
  revision : s.stateRevision ≤ t.stateRevision
  unchanged : s.stateRevision = t.stateRevision → s.active = t.active
  sequence : s.activationSequence ≤ t.activationSequence
  kept : ∀ i f, t.active.get? i = some f →
    (∃ e, s.active.get? i = some e ∧ e.activationId = f.activationId ∧
      e.channels = f.channels) ∨ s.activationSequence < f.activationId

theorem Evolves.refl (s : AlarmStateManager) : Evolves s s :=
  ⟨le_rfl, fun _ => rfl, le_rfl, fun _ f hf => .inl ⟨f, hf, rfl, rfl⟩⟩

theorem Evolves.trans {s t u : AlarmStateManager} (h : Evolves s t)
    (h' : Evolves t u) : Evolves s u where
  revision := h.revision.trans h'.revision
  unchanged heq := by
    have hst : s.stateRevision = t.stateRevision :=
      le_antisymm h.revision (heq ▸ h'.revision)
    rw [h.unchanged hst, h'.unchanged (hst ▸ heq)]
  sequence := h.sequence.trans h'.sequence
  kept i f hf := by
    rcases h'.kept i f hf with ⟨e, he, heq, hch⟩ | hlater
    · rcases h.kept i e he with ⟨d, hd, hde, hch'⟩ | hlater
      · exact .inl ⟨d, hd, hde.trans heq, hch'.trans hch⟩
      · exact .inr (heq ▸ hlater)
    · exact .inr (lt_of_le_of_lt h.sequence hlater)

theorem identified_new : Identified new where
  bounded i e he := by
    cases he
  distinct i j e f he := by
    cases he

theorem Change.evolves {s t : AlarmStateManager} (h : Change s t) : Evolves s t := by
  cases h with
  | quiet active revision sequence =>
      refine ⟨revision.ge, fun _ => active.symm, sequence.ge, fun i f hf => ?_⟩
      exact .inl ⟨f, active ▸ hf, rfl, rfl⟩
  | amended alarmId held new was same channels active revision sequence =>
      refine ⟨by omega, by omega, sequence.ge, fun i f hf => .inl ?_⟩
      rw [active, Dict.get?_set] at hf
      by_cases hi : i = alarmId
      · rw [if_pos hi] at hf
        cases hf
        exact ⟨held, hi ▸ was, same.symm, channels.symm⟩
      · rw [if_neg hi] at hf
        exact ⟨f, hf, rfl, rfl⟩
  | activated alarmId new was fresh active revision sequence =>
      refine ⟨by omega, by omega, by omega, fun i f hf => ?_⟩
      rw [active, Dict.get?_set] at hf
      by_cases hi : i = alarmId
      · rw [if_pos hi] at hf
        cases hf
        exact .inr (by omega)
      · rw [if_neg hi] at hf
        exact .inl ⟨f, hf, rfl, rfl⟩
  | deactivated alarmId active revision sequence =>
      refine ⟨by omega, by omega, sequence.ge, fun i f hf => ?_⟩
      rw [active, Dict.get?_erase] at hf
      by_cases hi : i = alarmId
      · rw [if_pos hi] at hf
        cases hf
      · rw [if_neg hi] at hf
        exact .inl ⟨f, hf, rfl, rfl⟩

/-- The active events of a changed state: an old one, or the new one with a
fresh id. -/
theorem Change.entry {s t : AlarmStateManager} (h : Change s t) {i : String}
    {f : Event} (hf : t.active.get? i = some f) :
    (∃ e, s.active.get? i = some e ∧ e.activationId = f.activationId) ∨
      (f.activationId = s.activationSequence + 1 ∧
        t.activationSequence = s.activationSequence + 1 ∧
        ∀ j g, j ≠ i → t.active.get? j = some g → s.active.get? j = some g) := by
  cases h with
  | quiet active revision sequence =>
      exact .inl ⟨f, active ▸ hf, rfl⟩
  | amended alarmId held new was same channels active revision sequence =>
      rw [active, Dict.get?_set] at hf
      by_cases hi : i = alarmId
      · rw [if_pos hi] at hf
        cases hf
        exact .inl ⟨held, hi ▸ was, same.symm⟩
      · rw [if_neg hi] at hf
        exact .inl ⟨f, hf, rfl⟩
  | activated alarmId new was fresh active revision sequence =>
      rw [active, Dict.get?_set] at hf
      by_cases hi : i = alarmId
      · rw [if_pos hi] at hf
        cases hf
        refine .inr ⟨fresh, sequence, fun j g hj hg => ?_⟩
        rw [active, Dict.get?_set, if_neg (hi ▸ hj)] at hg
        exact hg
      · rw [if_neg hi] at hf
        exact .inl ⟨f, hf, rfl⟩
  | deactivated alarmId active revision sequence =>
      rw [active, Dict.get?_erase] at hf
      by_cases hi : i = alarmId
      · rw [if_pos hi] at hf
        cases hf
      · rw [if_neg hi] at hf
        exact .inl ⟨f, hf, rfl⟩

theorem Change.identified {s t : AlarmStateManager} (h : Change s t)
    (hs : Identified s) : Identified t := by
  have hseq := h.evolves.sequence
  refine ⟨fun i f hf => ?_, fun i j f g hf hg heq => ?_⟩
  · rcases h.entry hf with ⟨e, he, hid⟩ | ⟨hid, hnext, -⟩
    · have := hs.bounded i e he
      omega
    · omega
  · by_contra hij
    rcases h.entry hf with ⟨e, he, hid⟩ | ⟨hid, hnext, hrest⟩
    · rcases h.entry hg with ⟨d, hd, hid'⟩ | ⟨hid', hnext', hrest'⟩
      · exact hij (hs.distinct i j e d he hd (by omega))
      · have := hs.bounded i f (hrest' i f hij hf)
        omega
    · have := hs.bounded j g (hrest j g (fun hji => hij hji.symm) hg)
      omega

theorem Step.identified {s t : AlarmStateManager} (hs : Identified s)
    (h : Step s t) : Identified t := h.change.identified hs

theorem run_evolves {s t : AlarmStateManager} (h : Run Step s t) : Evolves s t :=
  h.across (I := fun _ => True) (fun _ _ => trivial) Evolves.refl
    Evolves.trans (fun _ hstep => hstep.change.evolves) trivial

end AlarmStateManager
end Alarms
end CryoDaq
