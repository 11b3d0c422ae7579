import CryoDaq.Safety.Runs

/-!
# Published readiness and RUN admission

The operator snapshot and `_check_preconditions` are two conjunctions over the
same facts.  `ready_admitted_iff` compares them: a snapshot that has just been
published as READY stands for every precondition but the ones in `Unpublished`,
which the snapshot does not look at.
-/

namespace CryoDaq
namespace Safety

open Async

namespace State

variable {s : State} {now : Int}

/-- The preconditions that the operator snapshot does not look at: the
qualification receipt, the driver's own attributes, the sealed identity and the
connection generation. -/
structure Unpublished (s : State) : Prop where
  qualified : s.energizingMutationRefusal = none
  watchdog : s.env.driver.isSome = true →
    s.driverAttr Driver.watchdogTripPending (.bool false) ≠ .bool true
  driver : s.wiring.config.requireKeithleyForRun = true →
    s.env.driver.isSome = true
  connected : s.wiring.config.requireKeithleyForRun = true →
    (s.driverAttr Driver.connected (.bool false)).truthy = true
  identity : s.wiring.identityQualified = true
  generation : s.link.generation.isSome = true
  output : s.env.driver.isSome = true →
    (s.driverAttr Driver.outputStateUnverified (.bool false)).truthy = false

/-- What a READY snapshot without a blocker says. -/
structure Published (s : State) (now : Int) : Prop where
  ready : s.control.state = .ready
  children : s.safetyChildrenAuthoritative = true
  connected : s.link.connected = true
  verified : s.snapshotVerifiedOff = true
  critical : (s.criticalInputSnapshotFact now).2 = none
  interlocks : s.inputs.matureDeadInterlockChannels = []
  polls : s.inputs.failedPollPersistenceBlockers = []

/-- Verified OFF in the snapshot is a verified OFF of the link with no active
source. -/
theorem snapshotVerifiedOff_iff :
    s.snapshotVerifiedOff = true ↔
      s.safetyChildrenAuthoritative = true ∧ s.link.connected = true ∧
        s.link.offEvidence.verifiedOff = true ∧ s.control.activeSources = ∅ ∧
        s.control.state ≠ .runPermitted ∧ s.control.state ≠ .running := by
  simp [snapshotVerifiedOff, and_assoc]

theorem reviewedSource_clear (h : s.reviewedSourceSection.2 = []) :
    s.link.connected = true ∧ s.snapshotVerifiedOff = true := by
  unfold reviewedSourceSection at h
  split at h
  · cases h
  · rename_i hconnected
    split at h
    · cases h
    · rename_i hverified
      exact ⟨by simpa using hconnected, by simpa using hverified⟩

theorem published_of_noBlockers (hs : s.control.state = .ready)
    (hb : s.snapshotBlockers now = []) : s.Published now := by
  simp only [snapshotBlockers, List.append_eq_nil_iff] at hb
  obtain ⟨⟨⟨⟨⟨hchildren, hsource⟩, hcritical⟩, hinterlock⟩, hpersistence⟩, _⟩ :=
    hb
  obtain ⟨hconnected, hverified⟩ := reviewedSource_clear hsource
  refine ⟨hs, ?_, hconnected, hverified, ?_, ?_, ?_⟩
  · by_contra hnot
    simp [childrenSection, hnot] at hchildren
  · simpa [criticalInputSection, Option.toList_eq_nil_iff] using hcritical
  · by_contra hnot
    simp [interlockSection, deadChannelsText, hnot] at hinterlock
  · by_contra hnot
    unfold persistenceSection at hpersistence
    split at hpersistence
    · cases hpersistence
    · rename_i hactive
      simp [failedPollsText, hactive, hnot] at hpersistence

/-- A sample that the snapshot accepts later is accepted by the preconditions
now. -/
theorem samplePreconditionRefusal_of_snapshot {m : InputId × Sample}
    (hnow : s.env.now ≤ now) (h : s.sampleSnapshotProblem now m = none) :
    s.samplePreconditionRefusal m = none := by
  unfold sampleSnapshotProblem at h
  unfold samplePreconditionRefusal
  simp only [ite_some_eq_none] at h ⊢
  obtain ⟨hfresh, h⟩ := h
  refine ⟨by omega, ?_⟩
  split
  · rfl
  · rename_i hfault
    simp_all

theorem criticalInputRefusal_of_snapshot (hnow : s.env.now ≤ now)
    (h : (s.criticalInputSnapshotFact now).2 = none) :
    s.criticalInputRefusal = none := by
  have hproblem : (s.criticalInputRequirements.findSome? fun requirement =>
      if requirement.2.isEmpty && !s.wiring.mock then
        some
          ((⟨"critical_inputs", "Critical inputs", .disconnected,
              "critical_input_missing"⟩ : PlantHealthFact),
            (⟨"critical_input_missing", .disconnected,
              "A required critical input is unavailable",
              "Restore a current valid critical-channel reading"⟩ :
              SafetyBlocker))
      else requirement.2.findSome? (s.sampleSnapshotProblem now)) = none := by
    unfold criticalInputSnapshotFact at h
    dsimp only at h
    split at h
    · cases h
    · assumption
  rw [List.findSome?_eq_none_iff] at hproblem
  refine List.findSome?_eq_none_iff.mpr fun requirement hreq => ?_
  have hone := hproblem requirement hreq
  rw [ite_some_eq_none] at hone
  obtain ⟨hpresent, hsamples⟩ := hone
  have hnone : requirement.2.findSome? s.samplePreconditionRefusal = none := by
    refine List.findSome?_eq_none_iff.mpr fun m hmem => ?_
    exact samplePreconditionRefusal_of_snapshot hnow
      (List.findSome?_eq_none_iff.mp hsamples m hmem)
  rw [hnone]
  simp [hpresent]

/-- Everything that a READY snapshot shows is a precondition, and everything
that it does not show is `Unpublished`. -/
theorem preconditions_iff (hm : s.wiring.mock = false)
    (hnow : s.env.now ≤ now) (h : s.Published now) :
    s.Preconditions ↔ s.Unpublished := by
  obtain ⟨_, _, hoff, hinactive, _, _⟩ := snapshotVerifiedOff_iff.mp h.verified
  constructor
  · intro hp
    exact
      { qualified := hp.qualified
        watchdog := hp.watchdog
        driver := fun hk => hp.driver hk hm
        connected := fun hk => hp.connected hk hm
        identity := hp.identity hm
        generation := (hp.generation hm).1
        output := fun hd => hp.output hd hinactive }
  · intro hu
    exact
      { qualified := hu.qualified
        children := h.children
        watchdog := hu.watchdog
        polls := h.polls
        interlocks := h.interlocks
        critical := criticalInputRefusal_of_snapshot hnow h.critical
        driver := fun hk _ => hu.driver hk
        connected := fun hk _ => hu.connected hk
        identity := fun _ => hu.identity
        generation := fun _ => ⟨hu.generation, h.connected⟩
        verified := fun _ _ => hoff
        output := fun hd _ => hu.output hd
        unlatched := by simp [h.ready] }

theorem refreshEvidence_frame (s : State) :
    s.refreshEvidence.control = s.control ∧
      s.refreshEvidence.wiring = s.wiring ∧ s.refreshEvidence.env = s.env := by
  unfold refreshEvidence expireStaleOffEvidence
  split <;> split <;> try split
  all_goals exact ⟨rfl, rfl, rfl⟩

theorem replaceSnapshot_eq {snapshot : OperatorSafetySnapshot}
    (h : (s.replaceSnapshot snapshot).2 = none) :
    s.replaceSnapshot snapshot = ({ s with snapshot := snapshot }, none) := by
  unfold replaceSnapshot at h ⊢
  split
  · rfl
  · rename_i hlarge
    rw [if_neg hlarge] at h
    cases h

/-- What a refresh that returns and publishes READY has looked at. -/
theorem published_of_ready (s₀ : State)
    (hok : s₀.refreshOperatorSafetySnapshot.2 = none)
    (hr : s₀.refreshOperatorSafetySnapshot.1.snapshot.readiness = .ready) :
    s₀.refreshEvidence.Published (max s₀.env.now s₀.snapshot.observed) ∧
      ∃ snapshot, s₀.refreshOperatorSafetySnapshot.1 =
        { s₀.refreshEvidence with snapshot := snapshot } := by
  unfold refreshOperatorSafetySnapshot at hok hr ⊢
  dsimp only at hok hr ⊢
  cases hfacts : s₀.refreshEvidence.factRefusal with
  | some e =>
      rw [hfacts] at hok
      cases hok
  | none =>
      rw [hfacts] at hok hr
      dsimp only at hok hr ⊢
      split at hok
      · rename_i hblocked
        rw [if_pos hblocked, replaceSnapshot_eq hok] at hr
        cases hr
      · rename_i hclear
        rw [if_neg hclear, replaceSnapshot_eq hok] at hr ⊢
        dsimp only at hr
        split at hr
        · rename_i hs
          refine ⟨published_of_noBlockers hs ?_, _, rfl⟩
          simpa [hs] using hclear
        · cases hr

theorem preconditions_withSnapshot (snapshot : OperatorSafetySnapshot) :
    ({ s with snapshot := snapshot } : State).checkPreconditions =
      s.checkPreconditions :=
  rfl

/-- A manager that has just published READY admits a Start exactly when the
facts that the snapshot does not look at admit it. -/
theorem ready_admitted_iff (s₀ : State) (hm : s₀.wiring.mock = false)
    (hok : s₀.refreshOperatorSafetySnapshot.2 = none)
    (hr : s₀.refreshOperatorSafetySnapshot.1.snapshot.readiness = .ready) :
    s₀.refreshOperatorSafetySnapshot.1.checkPreconditions.1 = true ↔
      s₀.refreshOperatorSafetySnapshot.1.Unpublished := by
  obtain ⟨hpublished, snapshot, hrefreshed⟩ := published_of_ready s₀ hok hr
  obtain ⟨_, hwiring, henv⟩ := refreshEvidence_frame s₀
  have hpre := preconditions_iff (by rw [hwiring]; exact hm)
    (by rw [henv]; exact le_max_left _ _) hpublished
  rw [hrefreshed, preconditions_withSnapshot]
  have hunpublished : ({ s₀.refreshEvidence with snapshot := snapshot } :
      State).Unpublished ↔ s₀.refreshEvidence.Unpublished :=
    ⟨fun h => ⟨h.1, h.2, h.3, h.4, h.5, h.6, h.7⟩,
      fun h => ⟨h.1, h.2, h.3, h.4, h.5, h.6, h.7⟩⟩
  rw [hunpublished, ← hpre, ← preconditionRefusal_eq_none]
  unfold checkPreconditions
  cases s₀.refreshEvidence.preconditionRefusal <;> simp

end State

/-! ## Runs of a qualified source -/

/-- A source on reviewed wiring whose qualification receipt expires at tick
`5`, with one critical channel. -/
def qualifiedWiring : Wiring :=
  { config := { criticalChannels := [⟨"T1", fun channel => channel == "T1"⟩] }
    identityQualified := true
    qualificationExpires := some 5
    criticalInputBindings := some [(⟨"thermometer", "T1"⟩, "T1")] }

/-- A driver that reports connected and OFF. -/
def qualifiedSource : Surroundings :=
  { driver := some {} }

/-- The children start, the source is connected and proved OFF, a reading is
collected and the monitor commits READY. -/
def readied : Schedule :=
  [.launch .start, .launch (.beginReviewedSourceConnect ""), resumed 1,
    .launch (.completeReviewedSourceConnect (some 0)), resumed 2,
    .launch
      (.collect ⟨⟨"thermometer", "T1"⟩, .finite 4, true, "ok", []⟩),
    .launch .monitorTurn]

/-- A manager that publishes READY under a current receipt admits a Start: the
facts that the snapshot does not look at admit it too. -/
theorem ready_admitted_qualified :
    ∃ p, Reachable qualifiedWiring qualifiedSource p ∧
      p.state.refreshOperatorSafetySnapshot.2 = none ∧
        p.state.refreshOperatorSafetySnapshot.1.snapshot.readiness = .ready ∧
          p.state.refreshOperatorSafetySnapshot.1.Unpublished := by
  have hrun : (replayed qualifiedWiring qualifiedSource readied).map (fun p =>
      (p.state.wiring.mock,
        p.state.refreshOperatorSafetySnapshot.2,
        p.state.refreshOperatorSafetySnapshot.1.snapshot.readiness,
        p.state.refreshOperatorSafetySnapshot.1.checkPreconditions.1)) =
        some (false, none, .ready, true) := by decide
  obtain ⟨p, hp, hobserved⟩ := reached hrun
  obtain ⟨hmock, hok, hready, hadmitted⟩ :
      p.state.wiring.mock = false ∧
        p.state.refreshOperatorSafetySnapshot.2 = none ∧
        p.state.refreshOperatorSafetySnapshot.1.snapshot.readiness = .ready ∧
        p.state.refreshOperatorSafetySnapshot.1.checkPreconditions.1 =
          true := by
    simpa only [Prod.mk.injEq] using hobserved
  exact ⟨p, hp, hok, hready,
    (State.ready_admitted_iff p.state hmock hok hready).mp hadmitted⟩

/-- READY is still published when the qualification receipt has expired. -/
theorem ready_published_without_receipt :
    ¬ ∀ (wiring : Wiring) (env : Surroundings)
      (p : Pool State Wait Outcome Exc), Reachable wiring env p →
        p.state.wiring.mock = false →
          p.state.refreshOperatorSafetySnapshot.2 = none →
            p.state.refreshOperatorSafetySnapshot.1.snapshot.readiness =
              .ready →
            p.state.refreshOperatorSafetySnapshot.1.checkPreconditions.1 =
              true := by
  intro hall
  have hrun : (replayed qualifiedWiring qualifiedSource
      (readied ++ [.environment (.tick 6)])).map (fun p =>
        (p.state.wiring.mock,
          p.state.refreshOperatorSafetySnapshot.2,
          p.state.refreshOperatorSafetySnapshot.1.snapshot.readiness,
          p.state.refreshOperatorSafetySnapshot.1.checkPreconditions.1)) =
        some (false, none, .ready, false) := by decide
  obtain ⟨p, hp, hobserved⟩ := reached hrun
  obtain ⟨hmock, hok, hready, hrefused⟩ :
      p.state.wiring.mock = false ∧
        p.state.refreshOperatorSafetySnapshot.2 = none ∧
        p.state.refreshOperatorSafetySnapshot.1.snapshot.readiness = .ready ∧
        p.state.refreshOperatorSafetySnapshot.1.checkPreconditions.1 =
          false := by
    simpa only [Prod.mk.injEq] using hobserved
  have hadmitted := hall _ _ p hp hmock hok hready
  rw [hrefused] at hadmitted
  cases hadmitted

end Safety
end CryoDaq
