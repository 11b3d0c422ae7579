import CryoDaq.Alarms.Objects

/-!
# The mutable manager refines the manager by value

**Invariant.**  The active events are private objects, one for each alarm
(`Private`).

**Simulation.**  Every operation keeps the invariant and does to the view what
the operation by value does; a change outside keeps both.  A reference that an
operation returns is never one of the manager's own objects.
-/

namespace CryoDaq
namespace Alarms
namespace AlarmObjects

/-- The active events are private, and no two alarms share one. -/
structure Private (s : AlarmObjects) : Prop where
  sound : s.memory.Sound
  entry : ∀ i a, s.active.get? i = some a → s.memory.Private a
  apart : ∀ i j a, s.active.get? i = some a → s.active.get? j = some a → i = j

structure Refines (s : AlarmObjects) (v : AlarmStateManager) : Prop where
  isPrivate : Private s
  view : s.view = v

theorem Private.refines {s : AlarmObjects} (hs : Private s) : Refines s s.view :=
  ⟨hs, rfl⟩

theorem private_new {m : Memory} (hm : m.Sound) : Private (new m) where
  sound := hm
  entry i a ha := by
    cases ha
  apart i j a ha := by
    cases ha

theorem get?_view (s : AlarmObjects) (i : String) :
    s.view.active.get? i = (s.active.get? i).map s.memory.read :=
  Dict.get?_mapValues _ _ _

theorem Private.record {s : AlarmObjects} (h : Private s) (e : HistoryEntry) :
    Private (s.record e) :=
  ⟨h.sound, h.entry, h.apart⟩

theorem Refines.record {s : AlarmObjects} {v : AlarmStateManager}
    (h : Refines s v) (e : HistoryEntry) : Refines (s.record e) (v.record e) where
  isPrivate := h.isPrivate.record e
  view := by
    rw [← h.view]
    rfl

theorem Refines.withSustained {s : AlarmObjects} {v : AlarmStateManager}
    (h : Refines s v) (since : Dict String Float) :
    Refines { s with sustainedSince := since } { v with sustainedSince := since } where
  isPrivate := ⟨h.isPrivate.sound, h.isPrivate.entry, h.isPrivate.apart⟩
  view := by
    rw [← h.view]
    rfl

theorem Refines.outside {s : AlarmObjects} {v : AlarmStateManager}
    (h : Refines s v) {m : Memory} (hm : Memory.Outside s.memory m) :
    Refines { s with memory := m } v where
  isPrivate :=
    ⟨hm.sound h.isPrivate.sound, fun i a ha => hm.private (h.isPrivate.entry i a ha),
      h.isPrivate.apart⟩
  view := by
    have hactive : s.active.mapValues (fun _ a => m.read a) =
        s.active.mapValues fun _ a => s.memory.read a :=
      Dict.mapValues_congr fun i a ha => hm.read (h.isPrivate.entry i a ha)
    rw [← h.view]
    simp only [AlarmObjects.view, hactive]

section Operations

variable {s : AlarmObjects} (hs : Private s)
include hs

theorem refines_amend {i : String} {a : Address} {o : EventObject} {new : Event}
    (hget : s.active.get? i = some a)
    (hc : o.channels = (s.memory.events.content a).channels)
    (hv : o.values = (s.memory.events.content a).values)
    (hnew : o.withContainers (s.memory.lists.content o.channels)
      (s.memory.dicts.content o.values) = new) :
    Refines (s.amend a o) (s.view.amend i new) where
  isPrivate :=
    ⟨hs.sound.update, fun j b hb => (hs.entry j b hb).update hc hv, hs.apart⟩
  view := by
    have hactive : s.active.mapValues (fun _ b => (s.memory.update a o).read b) =
        (s.active.mapValues fun _ b => s.memory.read b).set i
          ((s.memory.update a o).read a) := by
      refine Dict.mapValues_eq_set hget fun j b hb hj => ?_
      refine Memory.read_update_of_ne fun hba => hj ?_
      exact hs.apart j i a (hba ▸ hb) hget
    rw [Memory.read_update_self, hnew] at hactive
    simp only [AlarmObjects.view, AlarmObjects.amend, hactive,
      AlarmStateManager.amend, AlarmStateManager.markActiveMutation]

theorem refines_activate (i : String) (event : Event) :
    Refines (s.activate i event) (s.view.activate i event) := by
  refine Refines.record (s := { s with
    memory := s.memory.create
      { event with activationId := s.activationSequence + 1 }
    active := s.active.set i s.memory.events.next
    activationSequence := s.activationSequence + 1
    stateRevision := s.stateRevision + 1 }) ⟨⟨hs.sound.create _, ?_, ?_⟩, ?_⟩ _
  · intro j a ha
    rw [Dict.get?_set] at ha
    by_cases hj : j = i
    · rw [if_pos hj] at ha
      cases ha
      exact Memory.private_created _
    · rw [if_neg hj] at ha
      exact (hs.entry j a ha).create hs.sound _
  · have hfresh : ∀ j a, s.active.get? j = some a → a ≠ s.memory.events.next :=
      fun j a ha heq => hs.sound.events.next_not_owned (heq ▸ (hs.entry j a ha).event)
    intro j k a hj hk
    rw [Dict.get?_set] at hj hk
    by_cases hji : j = i
    · by_cases hki : k = i
      · rw [hji, hki]
      · rw [if_pos hji] at hj
        rw [if_neg hki] at hk
        cases hj
        exact absurd rfl (hfresh k _ hk)
    · by_cases hki : k = i
      · rw [if_neg hji] at hj
        rw [if_pos hki] at hk
        cases hk
        exact absurd rfl (hfresh j _ hj)
      · rw [if_neg hji] at hj
        rw [if_neg hki] at hk
        exact hs.apart j k a hj hk
  · have hactive : ∀ e : Event, s.active.mapValues
        (fun _ a => (s.memory.create e).read a) =
        s.active.mapValues fun _ a => s.memory.read a := fun e =>
      Dict.mapValues_congr fun j a ha =>
        Memory.read_create hs.sound e (hs.entry j a ha)
    simp only [AlarmObjects.view, Dict.mapValues_set, Memory.read_created, hactive,
      AlarmStateManager.markActiveMutation]

theorem refines_deactivate (i level : String) (now : Float) :
    Refines (s.deactivate i level now) (s.view.deactivate i level now) := by
  refine Refines.record (s := { s with
    active := s.active.erase i
    stateRevision := s.stateRevision + 1 }) ⟨⟨hs.sound, ?_, ?_⟩, ?_⟩ _
  · intro j a ha
    rw [Dict.get?_erase] at ha
    split at ha
    · cases ha
    · exact hs.entry j a ha
  · intro j k a hj hk
    rw [Dict.get?_erase] at hj hk
    split at hj
    · cases hj
    · split at hk
      · cases hk
      · exact hs.apart j k a hj hk
  · simp only [AlarmObjects.view, Dict.mapValues_erase,
      AlarmStateManager.markActiveMutation]

theorem refines_markError (i : String) (error : Bool) :
    Refines (s.markError i error) (s.view.markError i error) := by
  unfold markError AlarmStateManager.markError
  rw [get?_view]
  cases hget : s.active.get? i with
  | none =>
      exact hs.refines
  | some a =>
      by_cases herr : (s.memory.events.content a).evaluatorError = error
      · have herr' : (s.memory.read a).evaluatorError = error := herr
        simp only [Option.map_some, if_pos herr, if_pos herr']
        exact hs.refines
      · have herr' : ¬ (s.memory.read a).evaluatorError = error := herr
        simp only [Option.map_some, if_neg herr, if_neg herr']
        exact refines_amend hs hget rfl rfl rfl

theorem refines_raise (i : String) (event : Address) (config : ProcessConfig)
    (clock : Clock) :
    Refines (s.raise i event config clock).1
      (s.view.raise i (s.memory.read event) config clock).1 := by
  unfold raise AlarmStateManager.raise
  cases config.sustainedS with
  | none =>
      have hs' := (hs.refines.withSustained (s.sustainedSince.erase i)).isPrivate
      exact refines_activate hs' i (s.memory.read event)
  | some limit =>
      have hs' := hs.refines.withSustained
        (sustained s.sustainedSince i limit clock).1
      have hsince : s.view.sustainedSince = s.sustainedSince := rfl
      simp only [hsince]
      cases hheld : (sustained s.sustainedSince i limit clock).2 with
      | error e =>
          exact hs'
      | ok long =>
          cases long with
          | false =>
              exact hs'
          | true =>
              exact refines_activate hs'.isPrivate i (s.memory.read event)

theorem refines_settle (i : String) (config : ProcessConfig) (clock : Clock) :
    Refines (s.settle i clock).1 (s.view.settle i config clock).1 := by
  have hs' := hs.refines.withSustained (s.sustainedSince.erase i)
  have hview := get?_view s i
  unfold settle AlarmStateManager.settle
  cases hget : s.active.get? i with
  | none =>
      rw [hget] at hview
      simp only [hget, hview, Option.map_none]
      exact hs'
  | some a =>
      rw [hget] at hview
      simp only [hget, hview, Option.map_some, Bool.not_true, Bool.and_false,
        AlarmStateManager.checkHysteresisCleared, Bool.false_eq_true, if_false]
      exact refines_deactivate hs'.isPrivate i _ (clock 0)

theorem refines_process (i : String) (event : Option Address)
    (config : ProcessConfig) (clock : Clock) :
    Refines (s.process i event config clock).1
      (s.view.process i (event.map s.memory.read) config clock).1 := by
  cases event with
  | none =>
      exact refines_settle hs i config clock
  | some event =>
      unfold process AlarmStateManager.process
      simp only [Option.map_some, get?_view, Option.isSome_map]
      by_cases herror : (s.memory.events.content event).evaluatorError = true
      · have herror' : (s.memory.read event).evaluatorError = true := herror
        rw [if_pos herror, if_pos herror']
        exact refines_markError hs i true
      · have herror' : ¬ (s.memory.read event).evaluatorError = true := herror
        rw [if_neg herror, if_neg herror']
        cases hget : s.active.get? i with
        | none =>
            simp only [Option.isSome_none, Bool.false_eq_true, if_false]
            exact refines_raise hs i event config clock
        | some a =>
            simp only [Option.isSome_some, if_true]
            exact refines_markError hs i false

omit hs in
theorem Refines.handOut {v : AlarmStateManager} (h : Refines s v) (a : Address) :
    Refines (s.handOut a).1 v :=
  h.outside (h.isPrivate.sound.outside_createShared _)

theorem refines_publish (channelId : String) (severity : Severity)
    (ageSeconds : Float) (message : String) (clock : Clock) :
    Refines (s.publishDiagnosticAlarm channelId severity ageSeconds message clock).1
      (s.view.publishDiagnosticAlarm channelId severity ageSeconds message clock).1 := by
  unfold publishDiagnosticAlarm AlarmStateManager.publishDiagnosticAlarm
  simp only [get?_view]
  cases hget : s.active.get? (diagnosticId channelId) with
  | none =>
      exact (refines_activate hs _ _).handOut _
  | some a =>
      by_cases hup : severity.upper = "CRITICAL" ∧
          (s.memory.events.content a).level = "WARNING"
      · have hup' : severity.upper = "CRITICAL" ∧
            (s.memory.read a).level = "WARNING" := hup
        simp only [Option.map_some, if_pos hup, if_pos hup']
        apply Refines.handOut
        apply Refines.record
        exact refines_amend hs hget rfl rfl rfl
      · have hup' : ¬ (severity.upper = "CRITICAL" ∧
            (s.memory.read a).level = "WARNING") := hup
        simp only [Option.map_some, if_neg hup, if_neg hup']
        exact hs.refines

theorem refines_clear (channelId : String) (clock : Clock) :
    Refines (s.clearDiagnosticAlarm channelId clock)
      (s.view.clearDiagnosticAlarm channelId clock) := by
  unfold clearDiagnosticAlarm AlarmStateManager.clearDiagnosticAlarm
  rw [get?_view, Option.isSome_map]
  by_cases h : (s.active.get? (diagnosticId channelId)).isSome = true
  · simp only [if_pos h]
    exact refines_deactivate hs _ "INFO" (clock 0)
  · simp only [if_neg h]
    exact hs.refines

theorem refines_acknowledge (r : AcknowledgeRequest) (clock : Clock) :
    Refines (s.acknowledge r clock).1 (s.view.acknowledge r clock).1 := by
  unfold acknowledge AlarmStateManager.acknowledge
  by_cases hbad : (r.acknowledgedAt.any (!validTime ·) ||
      r.requestId.any (!validRequestId ·)) = true
  · rw [if_pos hbad, if_pos hbad]
    exact hs.refines
  · rw [if_neg hbad, if_neg hbad, get?_view]
    cases hget : s.active.get? r.alarmId with
    | none =>
        exact hs.refines
    | some a =>
        simp only [Option.map_some]
        by_cases hexp : r.expectedActivationId.any
            (· ≠ ((s.memory.events.content a).activationId : ℤ)) = true
        · have hexp' : r.expectedActivationId.any
              (· ≠ ((s.memory.read a).activationId : ℤ)) = true := hexp
          rw [if_pos hexp, if_pos hexp']
          exact hs.refines
        · have hexp' : ¬ r.expectedActivationId.any
              (· ≠ ((s.memory.read a).activationId : ℤ)) = true := hexp
          rw [if_neg hexp, if_neg hexp']
          by_cases hack : (s.memory.events.content a).acknowledged = true
          · have hack' : (s.memory.read a).acknowledged = true := hack
            rw [if_pos hack, if_pos hack']
            exact hs.refines
          · have hack' : ¬ (s.memory.read a).acknowledged = true := hack
            rw [if_neg hack, if_neg hack']
            apply Refines.record
            exact refines_amend hs hget rfl rfl rfl

end Operations

theorem outside_copyEntries {m : Memory} (hm : m.Sound)
    (l : List (String × Address)) : Memory.Outside m (copyEntries m l).1 := by
  induction l generalizing m with
  | nil =>
      exact ⟨Heap.Outside.refl _, Heap.Outside.refl _, Heap.Outside.refl _⟩
  | cons p rest ih =>
      have hone := hm.outside_createShared (m.read p.2)
      exact hone.trans (ih (hone.sound hm))

theorem refines_getActive {s : AlarmObjects} (hs : Private s) :
    Refines s.getActive.1 s.view :=
  hs.refines.outside (outside_copyEntries hs.sound _)

end AlarmObjects
end Alarms
end CryoDaq
