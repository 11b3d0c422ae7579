import CryoDaq.Recording.LifecycleFeed

/-!
# Steps of the two owners

What the feed's outcomes do to the owner of recording truth (`RecordingOwner.Sound`,
`Moves`) and to the owner of persistence truth, which the feed only tells about
epochs, direct commits and rejections.
-/

namespace CryoDaq
namespace Recording

open Storage

/-! ## The owner of recording truth -/

/-- What a session belongs to. -/
structure Span where
  experimentId : Option String
  acquisitionEpochId : Option String
  persistenceEpochId : Option String
deriving DecidableEq

namespace RecordingOwner

variable {σ : Type}

/-- The span of a session that would be under way now. -/
def span (o : RecordingOwner σ) : Span :=
  ⟨o.experimentId, o.acquisitionEpochId, o.persistenceEpochId⟩

/-- What holds while a session is under way. -/
structure InSession (o : RecordingOwner σ) (id : SessionId) : Prop where
  identity : id = ⟨o.generationId, o.sessionCounter⟩
  experiment : o.experimentId ≠ none
  running : o.acquisitionRunning = true
  lossless : o.persistenceLossless = true
  epoch : o.acquisitionEpochId = o.persistenceEpochId

structure Sound (o : RecordingOwner σ) : Prop where
  presented : ∃ reason, o.snapshot = o.makeSnapshot reason
  counter : o.sessionCounter ≤ o.revision
  active : o.experimentId ≠ none → o.experimentOperation = .active
  lossless : o.persistenceLossless = true ↔ o.persistenceEpochId ≠ none
  session : ∀ id, o.sessionId = some id → o.InSession id

/-- How a step changes the session: it ends, it goes on in its span, or a new one begins. -/
structure Moves (o o' : RecordingOwner σ) : Prop where
  generation : o'.generationId = o.generationId
  counter_le : o.sessionCounter ≤ o'.sessionCounter
  session : o'.sessionId = none ∨
    (o'.sessionId = o.sessionId ∧ (o.sessionId ≠ none → o'.span = o.span)) ∨
      o.sessionCounter < o'.sessionCounter

theorem Moves.refl (o : RecordingOwner σ) : Moves o o := ⟨rfl, le_rfl, .inr (.inl ⟨rfl, fun _ => rfl⟩)⟩

theorem Moves.trans {o o' o'' : RecordingOwner σ} (h : Moves o o') (h' : Moves o' o'') :
    Moves o o'' := by
  refine ⟨h'.generation.trans h.generation, h.counter_le.trans h'.counter_le, ?_⟩
  rcases h'.session with hnone | ⟨hsame, hspan⟩ | hnew
  · exact .inl hnone
  · rcases h.session with hnone | ⟨hsame', hspan'⟩ | hnew
    · exact .inl (hsame.trans hnone)
    · refine .inr (.inl ⟨hsame.trans hsame', fun hsome => ?_⟩)
      rw [hspan (hsame' ▸ hsome), hspan' hsome]
    · exact .inr (.inr (lt_of_lt_of_le hnew h'.counter_le))
  · exact .inr (.inr (lt_of_le_of_lt h.counter_le hnew))

/-- What a feed about the experiment or the acquisition leaves alone. -/
structure Aside (o o' : RecordingOwner σ) : Prop where
  sound : Sound o'
  moves : Moves o o'
  lossless : o'.persistenceLossless = o.persistenceLossless
  epoch : o'.persistenceEpochId = o.persistenceEpochId
  revision : o'.persistenceRevision = o.persistenceRevision

theorem Aside.refl {o : RecordingOwner σ} (h : Sound o) : Aside o o := ⟨h, .refl o, rfl, rfl, rfl⟩

section Feeds

variable {A : FeedAuthority σ} {texts : Texts} {o : RecordingOwner σ}

theorem accepting_cases [DecidableEq σ] {revision current : ℕ} {token : σ} {currentToken : Option σ}
    {domain : String} {next : Recorded σ} {P : RecordingOwner σ → Prop} (hsame : P o)
    (hnext : P next.1) :
    P (o.accepting revision current token currentToken domain next).1 := by
  unfold accepting refuse
  split
  · exact hsame
  · split
    · split <;> exact hsame
    · split
      · exact hsame
      · exact hnext

theorem experiment_ok {revision : ℤ} {operationId : String} {operation : ExperimentOperation}
    {experimentId experimentName phase : Option String} {outcome : Issued ExperimentFields σ}
    (h : A.experiment texts revision operationId operation experimentId experimentName phase =
      .ok outcome) :
    outcome.fields.operation = operation ∧ outcome.fields.experimentId = experimentId ∧
      (operation = .active → experimentId ≠ none) := by
  unfold FeedAuthority.experiment at h
  split at h
  · cases h
  · split at h
    · cases h
    · dsimp only at h
      split at h
      · cases h
      · rename_i hactive
        split at h
        · cases h
        · split at h
          · cases h
          · rw [← Except.ok.inj h]
            exact ⟨rfl, rfl, fun hop hnone => hactive ⟨hop, .inl hnone⟩⟩

theorem enterExperiment_aside {outcome : Issued ExperimentFields σ} (h : Sound o)
    (hactive : outcome.fields.operation = .active → outcome.fields.experimentId ≠ none)
    (hfinal : outcome.fields.operation = .finalized →
      o.experimentId = outcome.fields.experimentId) :
    Aside o (o.enterExperiment outcome) := by
  have hended : ∀ (operation : ExperimentOperation) (reason : String),
      Aside o ({ o with
        experimentRevision := outcome.fields.revision.value
        experimentToken := some outcome.provenance
        experimentOperation := operation
        experimentId := none
        experimentName := none
        phase := none
        sessionId := none : RecordingOwner σ }.publish reason) := by
    intro operation reason
    exact ⟨⟨⟨_, rfl⟩, h.counter.trans (Nat.le_succ _), fun hne => absurd rfl hne, h.lossless,
      by simp [publish]⟩, ⟨rfl, le_rfl, .inl rfl⟩, rfl, rfl, rfl⟩
  unfold enterExperiment
  dsimp only
  cases hop : outcome.fields.operation with
  | inactive => exact hended _ _
  | unavailable => exact hended _ _
  | finalized =>
      simp only [hfinal hop, decide_true, if_true]
      exact hended _ _
  | active =>
      dsimp only
      by_cases hreplaced : o.experimentId ≠ none ∧ o.experimentId ≠ outcome.fields.experimentId
      · simp only [decide_eq_true hreplaced, if_true]
        exact ⟨⟨⟨_, rfl⟩, h.counter.trans (Nat.le_succ _), fun _ => rfl, h.lossless,
          by simp [publish]⟩, ⟨rfl, le_rfl, .inl rfl⟩, rfl, rfl, rfl⟩
      · simp only [decide_eq_false hreplaced, Bool.false_eq_true, if_false]
        have hsame : o.sessionId ≠ none → outcome.fields.experimentId = o.experimentId := by
          intro hsome
          obtain ⟨id, hid⟩ := Option.ne_none_iff_exists'.mp hsome
          have hexperiment := (h.session id hid).experiment
          by_contra hne
          exact hreplaced ⟨hexperiment, fun heq => hne heq.symm⟩
        refine ⟨⟨⟨_, rfl⟩, h.counter.trans (Nat.le_succ _), fun _ => rfl, h.lossless, ?_⟩,
          ⟨rfl, le_rfl, .inr (.inl ⟨rfl, fun hsome => ?_⟩)⟩, rfl, rfl, rfl⟩
        · intro id hid
          have hin := h.session id hid
          exact ⟨hin.identity, hactive hop, hin.running, hin.lossless, hin.epoch⟩
        · simp only [span, publish, hsame hsome]

theorem feedExperiment_aside [DecidableEq σ] {outcome : Issued ExperimentFields σ} (h : Sound o)
    (hactive : outcome.fields.operation = .active → outcome.fields.experimentId ≠ none) :
    Aside o (o.feedExperiment A outcome).1 := by
  unfold feedExperiment
  split
  · exact .refl h
  · refine accepting_cases (.refl h) ?_
    split
    · exact .refl h
    · rename_i hfinal
      refine enterExperiment_aside h hactive fun hop => ?_
      by_contra hne
      exact hfinal ⟨hop, .inr hne⟩

theorem feedAcquisition_aside [DecidableEq σ] {receipt : Issued AcquisitionFields σ} (h : Sound o) :
    Aside o (o.feedAcquisition A receipt).1 := by
  unfold feedAcquisition
  split
  · exact .refl h
  · refine accepting_cases (.refl h) ?_
    unfold enterAcquisition
    dsimp only
    by_cases hends : (decide (o.acquisitionEpochId ≠ none ∧
        receipt.fields.acquisitionEpochId ≠ o.acquisitionEpochId) ||
          !decide (receipt.fields.state = .running)) = true
    · rw [if_pos hends]
      exact ⟨⟨⟨_, rfl⟩, h.counter.trans (Nat.le_succ _), h.active, h.lossless, by simp [publish]⟩,
        ⟨rfl, le_rfl, .inl rfl⟩, rfl, rfl, rfl⟩
    · rw [if_neg hends]
      simp only [Bool.or_eq_true, decide_eq_true_eq, Bool.not_eq_true', decide_eq_false_iff_not,
        not_or, not_not] at hends
      have hsame : o.sessionId ≠ none →
          receipt.fields.acquisitionEpochId = o.acquisitionEpochId := by
        intro hsome
        obtain ⟨id, hid⟩ := Option.ne_none_iff_exists'.mp hsome
        have hin := h.session id hid
        by_contra hne
        refine hends.1 ⟨?_, hne⟩
        rw [hin.epoch]
        exact h.lossless.mp hin.lossless
      refine ⟨⟨⟨_, rfl⟩, h.counter.trans (Nat.le_succ _), h.active, h.lossless, ?_⟩,
        ⟨rfl, le_rfl, .inr (.inl ⟨rfl, fun hsome => ?_⟩)⟩, rfl, rfl, rfl⟩
      · intro id hid
        have hin := h.session id hid
        refine ⟨hin.identity, hin.experiment, decide_eq_true hends.2, hin.lossless, ?_⟩
        exact (hsame (Option.ne_none_iff_exists'.mpr ⟨id, hid⟩)).trans hin.epoch
      · simp only [span, publish, hsame hsome]

theorem feedPersistence_eq [DecidableEq σ] {fields : PersistenceFields}
    (hrevision : o.persistenceRevision < fields.revision.value)
    (hroom : o.revision < maxNonnegativeInt) :
    o.feedPersistence A ⟨A.generationId, fields, A.persistenceToken fields⟩ =
      (o.enterPersistence ⟨A.generationId, fields, A.persistenceToken fields⟩, none) := by
  unfold feedPersistence
  rw [if_neg (by simp [FeedAuthority.verifies])]
  unfold accepting
  rw [if_neg (not_lt.mpr hrevision.le), if_neg hrevision.ne', if_neg (not_le.mpr hroom)]

/-- What a receipt about the persistence leaves behind. -/
structure Enters (o o' : RecordingOwner σ) (fields : PersistenceFields) : Prop where
  sound : Sound o'
  moves : Moves o o'
  lossless : o'.persistenceLossless = decide (fields.state = .lossless)
  epoch : o'.persistenceEpochId = fields.persistenceEpochId
  revision : o'.persistenceRevision = fields.revision.value
  acquisition : o'.acquisitionEpochId = o.acquisitionEpochId
  next : o'.revision = o.revision + 1

theorem enterPersistence_enters {receipt : Issued PersistenceFields σ} (h : Sound o)
    (hepoch : receipt.fields.state = .lossless ↔ receipt.fields.persistenceEpochId ≠ none) :
    Enters o (o.enterPersistence receipt) receipt.fields := by
  have hlossless : ∀ state : PersistenceLifecycle,
      decide (state = .lossless) = true ↔ state = .lossless := fun _ => decide_eq_true_iff
  unfold enterPersistence
  dsimp only
  by_cases hends : (decide (o.persistenceEpochId ≠ none ∧
      receipt.fields.persistenceEpochId ≠ o.persistenceEpochId) ||
        !decide (receipt.fields.state = .lossless)) = true
  · rw [if_pos hends]
    exact ⟨⟨⟨_, rfl⟩, h.counter.trans (Nat.le_succ _), h.active, (hlossless _).trans hepoch,
      by simp [publish]⟩, ⟨rfl, le_rfl, .inl rfl⟩, rfl, rfl, rfl, rfl, rfl⟩
  · rw [if_neg hends]
    simp only [Bool.or_eq_true, decide_eq_true_eq, Bool.not_eq_true', decide_eq_false_iff_not,
      not_or, not_not] at hends
    have hsame : o.sessionId ≠ none →
        receipt.fields.persistenceEpochId = o.persistenceEpochId := by
      intro hsome
      obtain ⟨id, hid⟩ := Option.ne_none_iff_exists'.mp hsome
      have hin := h.session id hid
      by_contra hne
      exact hends.1 ⟨h.lossless.mp hin.lossless, hne⟩
    refine ⟨⟨⟨_, rfl⟩, h.counter.trans (Nat.le_succ _), h.active, (hlossless _).trans hepoch, ?_⟩,
      ⟨rfl, le_rfl, .inr (.inl ⟨rfl, fun hsome => ?_⟩)⟩, rfl, rfl, rfl, rfl, rfl⟩
    · intro id hid
      have hin := h.session id hid
      refine ⟨hin.identity, hin.experiment, hin.running, decide_eq_true hends.2, ?_⟩
      exact hin.epoch.trans (hsame (Option.ne_none_iff_exists'.mpr ⟨id, hid⟩)).symm
    · simp only [span, publish, hsame hsome]

theorem begin_spec (h : Sound o) (hroom : o.revision < maxNonnegativeInt)
    (hepoch : o.acquisitionEpochId = o.persistenceEpochId) :
    o.beginRecordingEpoch.2 = none ∧ Sound o.beginRecordingEpoch.1 ∧
      Moves o o.beginRecordingEpoch.1 ∧
      o.beginRecordingEpoch.1.persistenceLossless = o.persistenceLossless ∧
      o.beginRecordingEpoch.1.persistenceEpochId = o.persistenceEpochId ∧
      o.beginRecordingEpoch.1.persistenceRevision = o.persistenceRevision := by
  unfold beginRecordingEpoch
  split
  · exact ⟨rfl, h, .refl o, rfl, rfl, rfl⟩
  · split
    · exact ⟨rfl, h, .refl o, rfl, rfl, rfl⟩
    · rename_i hcan
      simp only [not_or, Bool.not_eq_false] at hcan
      rw [if_neg (not_le.mpr hroom), if_neg (not_le.mpr (lt_of_le_of_lt h.counter hroom))]
      refine ⟨rfl, ⟨⟨_, rfl⟩, Nat.succ_le_succ h.counter, h.active, h.lossless, ?_⟩,
        ⟨rfl, Nat.le_succ _, .inr (.inr (Nat.lt_succ_self _))⟩, rfl, rfl, rfl⟩
      intro id hid
      exact ⟨(Option.some.inj hid).symm, hcan.1, hcan.2.1, hcan.2.2, hepoch⟩

theorem init_sound : Sound (init A) := ⟨⟨_, rfl⟩, le_rfl, by simp [init], by simp [init], by simp [init]⟩

end Feeds

end RecordingOwner

section Persistence

variable {τ : Type} [DecidableEq τ] {A : OutcomeAuthority τ} {p : Owner τ} {revision : Count}
  {epoch : String}

theorem feed_issue {s : Signed} (hrevision : p.receiptRevision < s.revision.value)
    (hroom : p.revision < maxNonnegativeInt) (hterminal : p.terminalUnavailableReason = none) :
    p.feed A (A.issue s) = p.feedNew (A.issue s) := by
  have hnew : (A.issue s).signed = s := rfl
  unfold Owner.feed Owner.preflight
  rw [if_neg (by simp [OutcomeAuthority.verifies, OutcomeAuthority.issue]), hnew,
    if_neg (not_lt.mpr hrevision.le), if_neg hrevision.ne', if_neg (not_le.mpr hroom)]
  simp only [hterminal, if_true]

theorem feed_terminal {s : Signed} {reason : String}
    (hrevision : p.receiptRevision < s.revision.value) (hroom : p.revision < maxNonnegativeInt)
    (hterminal : p.terminalUnavailableReason = some reason) :
    p.feed A (A.issue s) = (p, some (.overflow reason)) := by
  have hnew : (A.issue s).signed = s := rfl
  unfold Owner.feed Owner.preflight
  rw [if_neg (by simp [OutcomeAuthority.verifies, OutcomeAuthority.issue]), hnew,
    if_neg (not_lt.mpr hrevision.le), if_neg hrevision.ne', if_neg (not_le.mpr hroom)]
  simp only [hterminal]

def startEpoch (p : Owner τ) (epoch : String) : Owner τ :=
  { p with
    usedEpochIds := insert epoch p.usedEpochIds
    epoch := some epoch
    active := true
    materializationRevision := 0
    archiveRevision := none
    materialized := .empty
    unavailableAppendRevisions := ∅
    dropped := 0
    directCommitRevision := 0
    storage := .unknown
    spoolSeen := false }

def endEpoch (p : Owner τ) : Owner τ := { p with active := false, storage := .unavailable }

def commitTo (p : Owner τ) (source : ℕ) : Owner τ :=
  { p with
    directCommitRevision := source
    materializationRevision := source
    storage := if p.dropped = 0 then .available else .unavailable }

def rejectIn (p : Owner τ) (failureId : String) (records : ℕ) : Owner τ :=
  { p with
    dropped := p.dropped + records
    usedFailureIds := insert failureId p.usedFailureIds
    storage := .unavailable }

theorem feed_started (hrevision : p.receiptRevision < revision.value)
    (hroom : p.revision < maxNonnegativeInt) (hterminal : p.terminalUnavailableReason = none)
    (hactive : p.active = false) (hpending : p.pending.entries = []) :
    (∃ e, p.feed A (A.issue ⟨revision, epoch, .lifecycle .started⟩) = (p, some e)) ∨
      ∃ reason, p.feed A (A.issue ⟨revision, epoch, .lifecycle .started⟩) =
        ((startEpoch p epoch).accept (A.issue ⟨revision, epoch, .lifecycle .started⟩) reason,
          none) := by
  have hfeed : p.feed A (A.issue ⟨revision, epoch, .lifecycle .started⟩) =
      p.feedLifecycle (A.issue ⟨revision, epoch, .lifecycle .started⟩) .started :=
    feed_issue hrevision hroom hterminal
  rw [hfeed]
  unfold Owner.feedLifecycle Owner.refuse
  rw [if_pos rfl, if_neg (by simp [hactive, hpending])]
  split
  · exact .inl ⟨_, rfl⟩
  · split
    · exact .inl ⟨_, rfl⟩
    · exact .inr ⟨_, rfl⟩

theorem feed_ended {state : OwnerLifecycle} (hrevision : p.receiptRevision < revision.value)
    (hroom : p.revision < maxNonnegativeInt) (hterminal : p.terminalUnavailableReason = none)
    (hepoch : p.epoch = some epoch) (hstate : state ≠ .started) :
    ∃ reason, p.feed A (A.issue ⟨revision, epoch, .lifecycle state⟩) =
      ((endEpoch p).accept (A.issue ⟨revision, epoch, .lifecycle state⟩) reason, none) := by
  have hfeed : p.feed A (A.issue ⟨revision, epoch, .lifecycle state⟩) =
      p.feedLifecycle (A.issue ⟨revision, epoch, .lifecycle state⟩) state :=
    feed_issue hrevision hroom hterminal
  rw [hfeed]
  unfold Owner.feedLifecycle Owner.epochMatches
  rw [if_neg hstate, if_neg (by simp [OutcomeAuthority.issue, hepoch])]
  exact ⟨_, rfl⟩

theorem feed_directCommit {source records : Count} {destination : String}
    (hrevision : p.receiptRevision < revision.value)
    (hroom : p.revision < maxNonnegativeInt) (hterminal : p.terminalUnavailableReason = none)
    (hepoch : p.epoch = some epoch) (hactive : p.active = true) (hspool : p.spoolSeen = false)
    (hsource : p.directCommitRevision < source.value) :
    ∃ reason, p.feed A (A.issue ⟨revision, epoch, .directCommit source destination records⟩) =
      ((commitTo p source.value).accept
        (A.issue ⟨revision, epoch, .directCommit source destination records⟩) reason, none) := by
  have hfeed : p.feed A (A.issue ⟨revision, epoch, .directCommit source destination records⟩) =
      p.epochMatches (A.issue ⟨revision, epoch, .directCommit source destination records⟩)
        (p.feedDirectCommit (A.issue ⟨revision, epoch, .directCommit source destination records⟩)
          source) :=
    feed_issue hrevision hroom hterminal
  rw [hfeed]
  unfold Owner.epochMatches Owner.feedDirectCommit
  rw [if_neg (by simp [OutcomeAuthority.issue, hepoch]), if_neg (by simp [hactive]),
    if_neg (by simp [hspool]), if_neg (not_le.mpr hsource)]
  exact ⟨_, rfl⟩

theorem feed_rejection {fields : FailureFields} (hkind : fields.kind = .rejection)
    (happend : fields.append = none) (hrevision : p.receiptRevision < revision.value)
    (hroom : p.revision < maxNonnegativeInt) (hterminal : p.terminalUnavailableReason = none)
    (hepoch : p.epoch = some epoch) (hactive : p.active = true)
    (hfresh : fields.failureId ∉ p.usedFailureIds) :
    (p.usedFailureIds.card < maxTrackedIdentities ∧
        ∃ reason, p.feed A (A.issue ⟨revision, epoch, .failure fields⟩) =
          ((rejectIn p fields.failureId fields.recordCount.value).accept
            (A.issue ⟨revision, epoch, .failure fields⟩) reason, none)) ∨
      ((maxTrackedIdentities ≤ p.usedFailureIds.card ∨
          maxNonnegativeInt - fields.recordCount.value < p.dropped) ∧
        ∃ reason, p.feed A (A.issue ⟨revision, epoch, .failure fields⟩) =
          p.failTerminalCapacity (A.issue ⟨revision, epoch, .failure fields⟩) reason) := by
  have hfeed : p.feed A (A.issue ⟨revision, epoch, .failure fields⟩) =
      p.epochMatches (A.issue ⟨revision, epoch, .failure fields⟩)
        (p.feedFailure (A.issue ⟨revision, epoch, .failure fields⟩) fields) :=
    feed_issue hrevision hroom hterminal
  rw [hfeed]
  unfold Owner.epochMatches Owner.feedFailure
  rw [if_neg (by simp [OutcomeAuthority.issue, hepoch]), if_neg hfresh]
  split
  · rename_i hfull
    exact .inr ⟨.inl hfull, _, rfl⟩
  · rename_i hroomy
    split
    · rename_i hmany
      exact .inr ⟨.inr hmany.2, _, rfl⟩
    · rw [happend]
      dsimp only
      rw [if_neg (by simp [hactive])]
      unfold Owner.failed
      rw [hkind]
      exact .inl ⟨not_le.mp hroomy, _, rfl⟩

end Persistence

end Recording
end CryoDaq
