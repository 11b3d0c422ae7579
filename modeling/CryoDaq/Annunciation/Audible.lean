import CryoDaq.Annunciation.Occurrences

/-!
# Audible acknowledgement over whole runs

An activation id stands for one occurrence and stays with it as long as it is
projected; an acknowledgement of the safety fault stays with its occurrence and
reaches no other; a refused projection changes nothing; the revision counts the
changes of the public list.

**Two limits.**  The first accepted projection establishes revision one even when
it is empty, and a fault that leaves the projection gives up its acknowledgement.
-/

namespace CryoDaq
namespace Annunciation
namespace AnnunciationRegistry

/-- Identity, acknowledgement and revision over every run. -/
theorem annunciation_faithful {s : AnnunciationRegistry} (hs : Reachable s) :
    (∀ t j k r u, Run Step s t → s.active.get? j = some r →
      t.active.get? k = some u → r.activationId = u.activationId →
      r.source = u.source ∧ r.sourceKey = u.sourceKey ∧
        r.discriminator = u.discriminator) ∧
    (∀ t k d r u, Run (StepProjecting k d) s t → s.active.get? k = some r →
      r.discriminator = d → t.active.get? k = some u →
      u.activationId = r.activationId ∧
        (k.1 ≠ "alarm_v2" → r.acknowledged = true → u.acknowledged = true)) ∧
    (∀ t k r u, k.1 ≠ "alarm_v2" → s.active.get? k = some r →
      t.active.get? k = some u → u.discriminator ≠ r.discriminator →
      Run (StepSparing u.activationId) s t → u.acknowledged = false) ∧
    (∀ alarms status e, project alarms status = .error e →
      (s.sync alarms status).1 = s) ∧
    (∀ alarms status projected, project alarms status = .ok projected →
      ∀ k d, Projects k d (s.sync alarms status).1 ↔
        ∃ p, projected.get? k = some p ∧ p.discriminator = d) ∧
    (s.initialized = true → ∀ t, Step s t →
      t.snapshotRevision ≤ s.snapshotRevision + 1 ∧
      (s.snapshotRevision < t.snapshotRevision ↔
        t.activations ≠ s.activations)) ∧
    (s.initialized = false → s.snapshotRevision = 0 ∧ s.activations = [] ∧
      ∀ alarms status projected, project alarms status = .ok projected →
        (s.sync alarms status).1.snapshotRevision = 1) := by
  have hsound := hs.sound
  refine ⟨?_, ?_, ?_, ?_, ?_, ?_, ?_⟩
  · intro t j k r u hrun hr hu hid
    exact run_unique hsound hrun hr hu hid
  · intro t k d r u hrun hr hd hu
    exact run_keeps hsound hrun hr hd hu
  · intro t k r u hk hr hu hd hrun
    exact run_not_carried hsound hk hr hu hd hrun
  · intro alarms status e he
    simp only [sync, he]
  · intro alarms status projected hproject k d
    have hinstalled := (installed hsound projected).projects k d
    simp only [sync, hproject]
    rw [hinstalled]
    constructor
    · intro hmem
      obtain ⟨p, hp, heq⟩ := List.mem_map.mp hmem
      cases heq
      exact ⟨p.2, (projected.mem_entries _ _).mp hp, rfl⟩
    · rintro ⟨p, hp, rfl⟩
      exact List.mem_map.mpr ⟨(k, p), (projected.mem_entries _ _).mpr hp, rfl⟩
  · intro hinit t hstep
    rcases hstep.revision hsound hinit with rfl | ⟨hrevision, hchanged⟩
    · simp
    · exact ⟨hrevision.le, fun _ => hchanged, fun _ => by omega⟩
  · intro hinit
    obtain ⟨hactive, hrevision⟩ := hsound.start hinit
    refine ⟨hrevision, by simp [activations, hactive, Dict.values, Dict.empty], ?_⟩
    intro alarms status projected hproject
    simp only [sync, hproject]
    exact (installed hsound projected).first hinit

def started : AnnunciationRegistry where
  engineInstanceId := "0123456789abcdef0123456789abcdef"
  sequence := 0
  snapshotRevision := 0
  initialized := false
  active := Dict.empty

theorem started_reachable : Reachable started :=
  ⟨"0123456789abcdef0123456789abcdef", started, rfl, Run.refl _⟩

/-- The safety status with a state and a fault revision. -/
def status (state : String) (revision : ℤ) : RawStatus where
  state := .str state
  faultRevision := .int revision
  faultActivatedAt := .float 5.0

def acknowledgedFault : AnnunciationRegistry :=
  ((started.sync (some []) (some (status "fault_latched" 1))).1.acknowledgeSafetyAudio "a1").1

theorem acknowledgedFault_reachable : Reachable acknowledgedFault := by
  obtain ⟨id, r, hnew, hrun⟩ := started_reachable
  exact ⟨id, r, hnew, (hrun.tail (.sync _ _)).tail (.acknowledge _)⟩

/-- The fault is projected again, and then replaced by one of revision two. -/
theorem annunciation_faithful_acknowledged : ∃ r u v,
    acknowledgedFault.active.get? faultKey = some r ∧ r.acknowledged = true ∧
    (acknowledgedFault.sync (some []) (some (status "fault_latched" 1))).1.active.get? faultKey =
      some u ∧ u.activationId = r.activationId ∧ u.acknowledged = true ∧
    (acknowledgedFault.sync (some []) (some (status "fault_latched" 2))).1.active.get? faultKey =
      some v ∧ v.acknowledged = false ∧
    acknowledgedFault.snapshotRevision <
      (acknowledgedFault.sync (some []) (some (status "fault_latched" 2))).1.snapshotRevision := by
  obtain ⟨_, hkept, hnew, _, _, hrevision, _⟩ :=
    annunciation_faithful acknowledgedFault_reachable
  have hprojects : StepProjecting faultKey 1 acknowledgedFault
      (acknowledgedFault.sync (some []) (some (status "fault_latched" 1))).1 :=
    ⟨.sync _ _, _, rfl, rfl⟩
  have hsame := hkept _ faultKey 1 _ _ (Run.single hprojects) rfl rfl rfl
  refine ⟨_, _, _, rfl, rfl, rfl, hsame.1, hsame.2 (by decide) rfl, rfl,
    hnew (acknowledgedFault.sync (some []) (some (status "fault_latched" 2))).1 faultKey _ _
      (by decide) rfl rfl (by decide) (Run.single (.inl ⟨_, _, rfl⟩)),
    (hrevision rfl _ (.sync (some []) (some (status "fault_latched" 2)))).2.mpr (by decide)⟩

/-- The revision increases exactly with the public list, from the first
projection on. -/
def RevisionCountsChanges : Prop :=
  ∀ s t, Reachable s → Step s t →
    (s.snapshotRevision < t.snapshotRevision ↔ t.activations ≠ s.activations)

/-- An acknowledged fault stays acknowledged through every projection with its
revision. -/
def AcknowledgementSurvives : Prop :=
  ∀ s r u d (statuses : List RawStatus), Reachable s →
    s.active.get? faultKey = some r → r.discriminator = d → r.acknowledged = true →
    (∀ status ∈ statuses, status.faultRevision = .int d) →
    (statuses.foldl (fun s status => (s.sync (some []) (some status)).1) s).active.get?
      faultKey = some u → u.discriminator = d → u.acknowledged = true

/-- An empty first projection, and a fault that leaves the projection and comes
back with its revision. -/
theorem revision_and_acknowledgement_limits :
    ¬ RevisionCountsChanges ∧ ¬ AcknowledgementSurvives := by
  constructor
  · intro h
    have hiff := h started _ started_reachable
      (.sync (some []) (some (status "ready" 0)))
    revert hiff
    decide
  · intro h
    have hack := h _
      ⟨"a1", "safety_fault", "safety_manager", 1, "CRITICAL", ⟨5.0, by decide⟩, true⟩
      ⟨"a2", "safety_fault", "safety_manager", 1, "CRITICAL", ⟨5.0, by decide⟩, false⟩
      1 [status "ready" 1, status "fault_latched" 1] acknowledgedFault_reachable (by decide) rfl rfl
      (by decide) (by decide) rfl
    cases hack

end AnnunciationRegistry
end Annunciation
end CryoDaq
