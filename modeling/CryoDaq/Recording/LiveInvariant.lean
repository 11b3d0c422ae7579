import CryoDaq.Recording.LiveTexts

/-!
# What the owners present

**The recording owner.**  Whatever it is fed, its snapshot carries admitted texts,
revisions and counters in range, and a session only of an active experiment:
`RecordingOwner.Presents`.

**The persistence owner.**  Its revision never passes the revision of the last
receipt, its counters are in range, and after a first receipt it has an epoch:
`Presents`.

**Snapshots.**  A call leaves the snapshot as it is or takes the revision up:
`Succeeds`.
-/

namespace CryoDaq
namespace Recording

open Channels ObjectGraph Storage Text

variable {p : Platform} {σ τ : Type}

namespace RecordingOwner

structure Kept (p : Platform) (g : String) (o : RecordingOwner σ) : Prop where
  generation : o.generationId = g
  revision : o.revision ≤ maxNonnegativeInt
  fed : 1 ≤ o.experimentRevision → 1 ≤ o.revision
  experimentRevision : o.experimentRevision ≤ maxNonnegativeInt
  acquisitionRevision : o.acquisitionRevision ≤ maxNonnegativeInt
  persistenceRevision : o.persistenceRevision ≤ maxNonnegativeInt
  acquisitionEpochId : ∀ s, o.acquisitionEpochId = some s → Admitted p maxIdUtf8Bytes s
  persistenceEpochId : ∀ s, o.persistenceEpochId = some s → Admitted p maxIdUtf8Bytes s
  running : o.acquisitionRunning = true → o.acquisitionEpochId.isSome = true
  lossless : o.persistenceLossless = true → o.persistenceEpochId.isSome = true
  experimentId : ∀ s, o.experimentId = some s → Admitted p maxIdUtf8Bytes s
  experimentName : ∀ s, o.experimentName = some s → Admitted p maxTextUtf8Bytes s
  phase : ∀ s, o.phase = some s → Admitted p maxIdUtf8Bytes s
  active : o.experimentOperation = .active →
    o.experimentId.isSome = true ∧ o.experimentName.isSome = true
  inactive : o.experimentOperation ≠ .active →
    o.experimentId = none ∧ o.experimentName = none ∧ o.phase = none
  counter : o.sessionCounter ≤ maxNonnegativeInt
  session : ∀ s, o.sessionId = some s → s.generationId = g ∧ 1 ≤ s.counter ∧
    s.counter ≤ maxNonnegativeInt ∧ o.experimentOperation = .active ∧
    o.acquisitionRunning = true ∧ o.persistenceLossless = true

structure Presents (p : Platform) (g : String) (o : RecordingOwner σ) : Prop where
  kept : o.Kept p g
  snapshot : ∃ reason, Admitted p maxReasonUtf8Bytes reason ∧ o.snapshot = o.makeSnapshot reason

/-- The snapshot stays or its revision grows. -/
def Succeeds (o o' : RecordingOwner σ) : Prop :=
  o'.snapshot = o.snapshot ∨ o.snapshot.revision < o'.snapshot.revision

/-- What a call leaves. -/
structure Follows (p : Platform) (g : String) (o o' : RecordingOwner σ) : Prop where
  presents : o'.Presents p g
  succeeds : Succeeds o o'

theorem Presents.follows {g : String} {o : RecordingOwner σ}
    (h : o.Presents p g) : Follows p g o o :=
  ⟨h, Or.inl rfl⟩

theorem Presents.publish {g : String} {o o' : RecordingOwner σ} {reason : String}
    (h : o.Presents p g) (hrevision : o'.revision = o.revision)
    (hkept : ({ o' with revision := o'.revision + 1 } : RecordingOwner σ).Kept p g)
    (hreason : Admitted p maxReasonUtf8Bytes reason) :
    Follows p g o (o'.publish reason) := by
  refine ⟨⟨{ hkept with }, reason, hreason, rfl⟩, Or.inr ?_⟩
  obtain ⟨_, -, hsnapshot⟩ := h.snapshot
  have hold : o.snapshot.revision = o.revision := by
    rw [hsnapshot]
    rfl
  have hnew : (o'.publish reason).snapshot.revision = o'.revision + 1 := rfl
  omega

theorem accepting_room [DecidableEq σ] {o : RecordingOwner σ} {revision current : ℕ} {token : σ}
    {currentToken : Option σ} {domain : String} {next : Recorded σ} {P : RecordingOwner σ → Prop}
    (hsame : P o) (hnext : o.revision < maxNonnegativeInt → P next.1) :
    P (o.accepting revision current token currentToken domain next).1 := by
  unfold accepting refuse
  split
  · exact hsame
  · split
    · split <;> exact hsame
    · split
      · exact hsame
      · rename_i hroom
        exact hnext (not_le.mp hroom)

theorem admitted_of_textError {texts : List (String × ℕ × Option String)}
    (h : textError (textFault p) texts = none) :
    ∀ e ∈ texts, ∀ value, e.2.2 = some value → Admitted p e.2.1 value := by
  induction texts with
  | nil =>
      intro e he
      cases he
  | cons first rest ih =>
      obtain ⟨field, limit, value⟩ := first
      cases value with
      | none =>
          intro e he value hvalue
          rcases List.mem_cons.mp he with rfl | he
          · cases hvalue
          · exact ih h e he value hvalue
      | some text =>
          unfold textError at h
          split at h
          · cases h
          · rename_i hfault
            intro e he value hvalue
            rcases List.mem_cons.mp he with rfl | he
            · rw [← Option.some.inj hvalue]
              exact textFault_eq_none.mp hfault
            · exact ih h e he value hvalue

/-- What the constructor of an outcome about the experiment has checked. -/
structure Worded (p : Platform) (f : ExperimentFields) : Prop where
  experimentId : ∀ s, f.experimentId = some s → Admitted p maxIdUtf8Bytes s
  experimentName : ∀ s, f.experimentName = some s → Admitted p maxTextUtf8Bytes s
  phase : ∀ s, f.phase = some s → Admitted p maxIdUtf8Bytes s
  active : f.operation = .active → f.experimentId.isSome = true ∧ f.experimentName.isSome = true

theorem worded_of_experiment {A : FeedAuthority σ} {revision : ℤ} {operationId : String}
    {operation : ExperimentOperation} {experimentId experimentName phase : Option String}
    {outcome : Issued ExperimentFields σ}
    (h : A.experiment (textFault p) revision operationId operation experimentId experimentName
      phase = .ok outcome) : Worded p outcome.fields := by
  unfold FeedAuthority.experiment at h
  split at h
  · cases h
  · split at h
    · cases h
    · rename_i htexts
      have hadmitted := admitted_of_textError htexts
      dsimp only at h
      split at h
      · cases h
      · rename_i hactive
        split at h
        · cases h
        · split at h
          · cases h
          · rw [← Except.ok.inj h]
            refine ⟨fun s hs => hadmitted ("experiment_id", maxIdUtf8Bytes, experimentId)
                (by simp) s hs,
              fun s hs => hadmitted ("experiment_name", maxTextUtf8Bytes, experimentName)
                (by simp) s hs,
              fun s hs => hadmitted ("phase", maxIdUtf8Bytes, phase) (by simp) s hs, ?_⟩
            intro hop
            rw [Option.isSome_iff_ne_none, Option.isSome_iff_ne_none]
            exact ⟨fun hnone => hactive ⟨hop, Or.inl hnone⟩,
              fun hnone => hactive ⟨hop, Or.inr hnone⟩⟩

theorem acquisition_ok {A : FeedAuthority σ} {revision : ℤ} {state : AcquisitionLifecycle}
    {epoch : Option String} {receipt : Issued AcquisitionFields σ}
    (h : A.acquisition (textFault p) revision state epoch = .ok receipt) :
    (receipt.fields.state = .running → receipt.fields.acquisitionEpochId.isSome = true) ∧
      ∀ s, receipt.fields.acquisitionEpochId = some s → Admitted p maxIdUtf8Bytes s := by
  unfold FeedAuthority.acquisition at h
  split at h
  · cases h
  · split at h
    · cases h
    · rename_i htexts
      dsimp only at h
      split at h
      · rename_i hepoch
        rw [← Except.ok.inj h]
        exact ⟨fun hstate => Option.isSome_iff_ne_none.mpr (hepoch.mp hstate),
          fun s hs => admitted_of_textError htexts _ (List.mem_singleton_self _) s hs⟩
      · cases h

theorem persistence_ok {A : FeedAuthority σ} {revision : ℤ} {state : PersistenceLifecycle}
    {epoch : Option String} {receipt : Issued PersistenceFields σ}
    (h : A.persistence (textFault p) revision state epoch = .ok receipt) :
    (receipt.fields.state = .lossless → receipt.fields.persistenceEpochId.isSome = true) ∧
      ∀ s, receipt.fields.persistenceEpochId = some s → Admitted p maxIdUtf8Bytes s := by
  unfold FeedAuthority.persistence at h
  split at h
  · cases h
  · split at h
    · cases h
    · rename_i htexts
      dsimp only at h
      split at h
      · rename_i hepoch
        rw [← Except.ok.inj h]
        exact ⟨fun hstate => Option.isSome_iff_ne_none.mpr (hepoch.mp hstate),
          fun s hs => admitted_of_textError htexts _ (List.mem_singleton_self _) s hs⟩
      · cases h

section Feeds

variable {g : String} {o : RecordingOwner σ}

theorem Presents.ended (h : o.Presents p g) (hroom : o.revision < maxNonnegativeInt)
    {outcome : Issued ExperimentFields σ} {operation : ExperimentOperation}
    (hoperation : operation ≠ .active) {reason : String}
    (hreason : Admitted p maxReasonUtf8Bytes reason) :
    Follows p g o ({ o with
      experimentRevision := outcome.fields.revision.value
      experimentToken := some outcome.provenance
      experimentOperation := operation
      experimentId := none
      experimentName := none
      phase := none
      sessionId := none : RecordingOwner σ }.publish reason) := by
  refine h.publish rfl ?_ hreason
  exact
    { h.kept with
      revision := hroom
      fed := fun _ => Nat.le_add_left 1 _
      experimentRevision := outcome.fields.revision.bounded
      experimentId := by simp
      experimentName := by simp
      phase := by simp
      active := fun hop => absurd hop hoperation
      inactive := fun _ => ⟨rfl, rfl, rfl⟩
      session := by simp }

theorem enterExperiment_follows (h : o.Presents p g) (hroom : o.revision < maxNonnegativeInt)
    {outcome : Issued ExperimentFields σ} (hworded : Worded p outcome.fields)
    (hfinal : outcome.fields.operation = .finalized →
      o.experimentId = outcome.fields.experimentId) :
    Follows p g o (o.enterExperiment outcome) := by
  unfold enterExperiment
  dsimp only
  cases hop : outcome.fields.operation with
  | inactive =>
      exact h.ended hroom (by decide) (admitted_phrase (by decide)).1
  | unavailable =>
      exact h.ended hroom (by decide) (admitted_phrase (by decide)).1
  | finalized =>
      simp only [hfinal hop, decide_true, if_true]
      exact h.ended hroom (by decide) (admitted_phrase (by decide)).1
  | active =>
      dsimp only
      refine h.publish rfl ?_ ?_
      · exact
          { h.kept with
            revision := hroom
            fed := fun _ => Nat.le_add_left 1 _
            experimentRevision := outcome.fields.revision.bounded
            experimentId := hworded.experimentId
            experimentName := hworded.experimentName
            phase := hworded.phase
            active := fun _ => hworded.active hop
            inactive := fun hne => absurd rfl hne
            session := by
              intro s hs
              split at hs
              · cases hs
              · obtain ⟨hgeneration, hpositive, hbounded, -, hrunning, hlossless⟩ :=
                  h.kept.session s hs
                exact ⟨hgeneration, hpositive, hbounded, rfl, hrunning, hlossless⟩ }
      · split
        · exact (admitted_phrase (by decide)).1
        · exact (admitted_phrase (by decide)).1

theorem feedExperiment_follows [DecidableEq σ] {A : FeedAuthority σ} (h : o.Presents p g)
    {outcome : Issued ExperimentFields σ} (hworded : Worded p outcome.fields) :
    Follows p g o (o.feedExperiment A outcome).1 := by
  unfold feedExperiment
  split
  · exact h.follows
  · refine accepting_room h.follows fun hroom => ?_
    split
    · exact h.follows
    · rename_i hfinal
      refine enterExperiment_follows h hroom hworded fun hop => ?_
      by_contra hne
      exact hfinal ⟨hop, Or.inr hne⟩

theorem feedAcquisition_follows [DecidableEq σ] {A : FeedAuthority σ} (h : o.Presents p g)
    {revision : ℤ} {state : AcquisitionLifecycle} {epoch : Option String}
    {receipt : Issued AcquisitionFields σ}
    (hissued : A.acquisition (textFault p) revision state epoch = .ok receipt) :
    Follows p g o (o.feedAcquisition A receipt).1 := by
  obtain ⟨hstate, hepoch⟩ := acquisition_ok hissued
  unfold feedAcquisition
  split
  · exact h.follows
  · refine accepting_room h.follows fun hroom => h.publish rfl ?_ ?_
    · exact
        { h.kept with
          revision := hroom
          fed := fun _ => Nat.le_add_left 1 _
          acquisitionRevision := receipt.fields.revision.bounded
          acquisitionEpochId := hepoch
          running := fun hrunning => hstate (of_decide_eq_true hrunning)
          session := by
            intro s hs
            split at hs
            · cases hs
            · rename_i hgoes
              rw [Bool.or_eq_true, not_or, Bool.not_eq_true', Bool.not_eq_false] at hgoes
              obtain ⟨hgeneration, hpositive, hbounded, hactive, -, hlossless⟩ :=
                h.kept.session s hs
              exact ⟨hgeneration, hpositive, hbounded, hactive, hgoes.2, hlossless⟩ }
    · cases receipt.fields.state <;>
        exact (admitted_phrase (by decide)).1

theorem feedPersistence_follows [DecidableEq σ] {A : FeedAuthority σ} (h : o.Presents p g)
    {revision : ℤ} {state : PersistenceLifecycle} {epoch : Option String}
    {receipt : Issued PersistenceFields σ}
    (hissued : A.persistence (textFault p) revision state epoch = .ok receipt) :
    Follows p g o (o.feedPersistence A receipt).1 := by
  obtain ⟨hstate, hepoch⟩ := persistence_ok hissued
  unfold feedPersistence
  split
  · exact h.follows
  · refine accepting_room h.follows fun hroom => h.publish rfl ?_ ?_
    · exact
        { h.kept with
          revision := hroom
          fed := fun _ => Nat.le_add_left 1 _
          persistenceRevision := receipt.fields.revision.bounded
          persistenceEpochId := hepoch
          lossless := fun hlossless => hstate (of_decide_eq_true hlossless)
          session := by
            intro s hs
            split at hs
            · cases hs
            · rename_i hgoes
              rw [Bool.or_eq_true, not_or, Bool.not_eq_true', Bool.not_eq_false] at hgoes
              obtain ⟨hgeneration, hpositive, hbounded, hactive, hrunning, -⟩ :=
                h.kept.session s hs
              exact ⟨hgeneration, hpositive, hbounded, hactive, hrunning, hgoes.2⟩ }
    · cases receipt.fields.state <;>
        exact (admitted_phrase (by decide)).1

theorem begin_follows (h : o.Presents p g) : Follows p g o o.beginRecordingEpoch.1 := by
  unfold beginRecordingEpoch
  split
  · exact h.follows
  · split
    · exact h.follows
    · rename_i hready
      rw [not_or, not_or, Bool.not_eq_false, Bool.not_eq_false] at hready
      obtain ⟨hexperiment, hrunning, hlossless⟩ := hready
      split
      · exact h.follows
      · rename_i hroom
        split
        · exact h.follows
        · rename_i hcounter
          refine h.publish rfl ?_ (admitted_phrase (by decide)).1
          exact
            { h.kept with
              revision := not_le.mp hroom
              fed := fun _ => Nat.le_add_left 1 _
              counter := not_le.mp hcounter
              session := by
                intro s hs
                rw [← Option.some.inj hs]
                refine ⟨h.kept.generation, Nat.le_add_left 1 _, not_le.mp hcounter, ?_, hrunning,
                  hlossless⟩
                by_contra hne
                exact hexperiment (h.kept.inactive hne).1 }

end Feeds

theorem init_presents {A : FeedAuthority σ} :
    (init A).Presents p A.generationId := by
  refine ⟨?_, "not_initialized", (admitted_phrase (by decide)).1, rfl⟩
  exact
    { generation := rfl
      revision := Nat.zero_le _
      fed := fun h => absurd h (Nat.not_succ_le_zero 0)
      experimentRevision := Nat.zero_le _
      acquisitionRevision := Nat.zero_le _
      persistenceRevision := Nat.zero_le _
      acquisitionEpochId := by simp [init]
      persistenceEpochId := by simp [init]
      running := by simp [init]
      lossless := by simp [init]
      experimentId := by simp [init]
      experimentName := by simp [init]
      phase := by simp [init]
      active := by simp [init]
      inactive := fun _ => ⟨rfl, rfl, rfl⟩
      counter := Nat.zero_le _
      session := by simp [init] }

end RecordingOwner

section Persistence

structure Counters (p : Platform) (o : Owner τ) : Prop where
  epoch : ∀ s, o.epoch = some s → Admitted p maxIdUtf8Bytes s
  materialization : o.materializationRevision ≤ maxNonnegativeInt
  archive : ∀ n, o.archiveRevision = some n → 1 ≤ n ∧ n ≤ maxNonnegativeInt
  pending : o.pendingCount ≤ maxNonnegativeInt
  dropped : o.dropped ≤ maxNonnegativeInt

structure Presents (p : Platform) (ownerId g : String) (o : Owner τ) : Prop where
  ownerId : o.ownerId = ownerId
  generation : o.generationId = g
  revision_le : o.revision ≤ o.receiptRevision
  receiptRevision : o.receiptRevision ≤ maxNonnegativeInt
  fed : 1 ≤ o.receiptRevision → 1 ≤ o.revision
  started : 1 ≤ o.revision → o.epoch.isSome = true
  counters : Counters p o
  snapshot : ∃ reason, Admitted p maxReasonUtf8Bytes reason ∧ o.snapshot = o.makeSnapshot reason

/-- The snapshot stays or its revision grows. -/
def Succeeds (o o' : Owner τ) : Prop :=
  o'.snapshot = o.snapshot ∨ o.snapshot.revision < o'.snapshot.revision

/-- What a call leaves. -/
structure Follows (p : Platform) (ownerId g : String) (o o' : Owner τ) : Prop where
  presents : Presents p ownerId g o'
  succeeds : Succeeds o o'

/-- What the constructor of an outcome has checked. -/
structure Signed.Worded (p : Platform) (s : Signed) : Prop where
  epoch : Admitted p maxIdUtf8Bytes s.recordingEpochId
  reason : ∀ f, s.outcome = .failure f → Admitted p maxReasonUtf8Bytes f.reason

theorem worded_of_construct {A : OutcomeAuthority τ} {s : Signed} {r : Storage.Receipt τ}
    (h : constructOutcome p A s = .ok r) : Signed.Worded p s ∧ r = A.issue s := by
  unfold constructOutcome at h
  split at h
  · cases h
  · rename_i htexts
    have hadmitted := RecordingOwner.admitted_of_textError htexts
    refine ⟨⟨?_, ?_⟩, (Except.ok.inj h).symm⟩
    · exact hadmitted ("recording_epoch_id", maxIdUtf8Bytes, some s.recordingEpochId)
        List.mem_cons_self _ rfl
    · intro f hf
      refine hadmitted ("reason", maxReasonUtf8Bytes, some f.reason) ?_ _ rfl
      simp [receiptTexts, hf]

variable {ownerId g : String} {o o' : Owner τ} {r : Storage.Receipt τ}

theorem Presents.follows (h : Presents p ownerId g o) : Follows p ownerId g o o :=
  ⟨h, Or.inl rfl⟩

/-- The owner before a receipt is accepted: the receipt has changed its fields, but not
its identity and its revision. -/
structure Amends (p : Platform) (o o' : Owner τ) : Prop where
  ownerId : o'.ownerId = o.ownerId
  generation : o'.generationId = o.generationId
  revision : o'.revision = o.revision
  epoch : o'.epoch.isSome = true
  counters : Counters p o'

theorem Presents.accept (h : Presents p ownerId g o)
    (hnew : o.receiptRevision < r.signed.revision.value) {reason : String}
    (hreason : Admitted p maxReasonUtf8Bytes reason) (hamends : Amends p o o') :
    Follows p ownerId g o (o'.accept r reason) := by
  have hle := h.revision_le
  have hrevision := hamends.revision
  refine ⟨⟨hamends.ownerId.trans h.ownerId, hamends.generation.trans h.generation, ?_,
    r.signed.revision.bounded, fun _ => Nat.le_add_left 1 _, fun _ => hamends.epoch,
    { hamends.counters with }, reason, hreason, rfl⟩, Or.inr ?_⟩
  · have hnext : (o'.accept r reason).revision = o'.revision + 1 := rfl
    have hreceipt : (o'.accept r reason).receiptRevision = r.signed.revision.value := rfl
    omega
  · obtain ⟨_, -, hsnapshot⟩ := h.snapshot
    have hold : o.snapshot.revision = o.revision := by
      rw [hsnapshot]
      rfl
    have hnext : (o'.accept r reason).snapshot.revision = o'.revision + 1 := rfl
    omega

theorem epochMatches_follows (h : Presents p ownerId g o) {next : Fed τ}
    (hnext : o.epoch.isSome = true → Follows p ownerId g o next.1) :
    Follows p ownerId g o (o.epochMatches r next).1 := by
  unfold Owner.epochMatches
  split
  · exact h.follows
  · rename_i hepoch
    rw [not_not] at hepoch
    exact hnext (by rw [← hepoch]; rfl)

theorem feedLifecycle_follows (h : Presents p ownerId g o)
    (hnew : o.receiptRevision < r.signed.revision.value) (hworded : Signed.Worded p r.signed)
    (state : OwnerLifecycle) : Follows p ownerId g o (o.feedLifecycle r state).1 := by
  unfold Owner.feedLifecycle
  split
  · split
    · exact h.follows
    · split
      · exact h.follows
      · split
        · exact h.follows
        · refine h.accept hnew (admitted_phrase (by decide)).1 ⟨rfl, rfl, rfl, rfl, ?_⟩
          exact
            { epoch := fun s hs => Option.some.inj hs ▸ hworded.epoch
              materialization := Nat.zero_le _
              archive := by simp
              pending := h.counters.pending
              dropped := Nat.zero_le _ }
  · refine epochMatches_follows h fun hepoch => h.accept hnew ?_ ⟨rfl, rfl, rfl, hepoch,
      { h.counters with }⟩
    split
    · exact (admitted_phrase (by decide)).1
    · exact (admitted_phrase (by decide)).1

theorem lt_of_preflight [DecidableEq τ] {A : OutcomeAuthority τ}
    (h : o.preflight A r = .ok true) : o.receiptRevision < r.signed.revision.value := by
  unfold Owner.preflight at h
  split at h
  · cases h
  · split at h
    · cases h
    · rename_i hnot
      split at h
      · split at h <;> cases h
      · rename_i hne
        omega

theorem failTerminalCapacity_follows (h : Presents p ownerId g o)
    (hnew : o.receiptRevision < r.signed.revision.value) {reason : String}
    (hreason : Admitted p maxReasonUtf8Bytes reason) (hamends : Amends p o o') :
    Follows p ownerId g o (o'.failTerminalCapacity r reason).1 :=
  h.accept hnew hreason ⟨hamends.ownerId, hamends.generation, hamends.revision, hamends.epoch,
    { hamends.counters with }⟩

section Branches

variable (h : Presents p ownerId g o) (hnew : o.receiptRevision < r.signed.revision.value)
  (hepoch : o.epoch.isSome = true)

include h hnew hepoch

theorem feedAppend_follows (appendId destinationId : String) (recordCount : Count) :
    Follows p ownerId g o (o.feedAppend r appendId destinationId recordCount).1 := by
  have hbounded := recordCount.bounded
  unfold Owner.feedAppend
  split
  · exact h.follows
  · split
    · exact h.follows
    · split
      · exact h.follows
      · split
        · exact failTerminalCapacity_follows h hnew (admitted_phrase (by decide)).1
            ⟨rfl, rfl, rfl, hepoch, h.counters⟩
        · rename_i hroom
          have hcounters : Counters p
              { o with pendingCount := o.pendingCount + recordCount.value } :=
            { h.counters with
              pending := by
                show o.pendingCount + recordCount.value ≤ maxNonnegativeInt
                omega }
          split
          · exact failTerminalCapacity_follows h hnew
              (admitted_phrase (by decide)).1
              ⟨rfl, rfl, rfl, hepoch, hcounters⟩
          · exact h.accept hnew
              (admitted_phrase (by decide)).1
              ⟨rfl, rfl, rfl, hepoch, { hcounters with }⟩

theorem feedDirectCommit_follows (sourceCommitRevision : Count) :
    Follows p ownerId g o (o.feedDirectCommit r sourceCommitRevision).1 := by
  unfold Owner.feedDirectCommit
  split
  · exact h.follows
  · split
    · exact h.follows
    · split
      · exact h.follows
      · refine h.accept hnew ?_ ⟨rfl, rfl, rfl, hepoch,
          { h.counters with materialization := sourceCommitRevision.bounded }⟩
        split
        · exact (admitted_phrase (by decide)).1
        · exact (admitted_phrase (by decide)).1

omit h hnew hepoch in
theorem settledStorage_reason (o : Owner τ) {good integrity stopped : String}
    (hgood : Admitted p maxReasonUtf8Bytes good)
    (hintegrity : Admitted p maxReasonUtf8Bytes integrity)
    (hstopped : Admitted p maxReasonUtf8Bytes stopped) :
    Admitted p maxReasonUtf8Bytes (o.settledStorage good integrity stopped).2 := by
  unfold Owner.settledStorage
  split
  · exact hgood
  · dsimp only
    split
    · exact hintegrity
    · exact hstopped

theorem feedMaterialized_follows (j : AppendJoin) :
    Follows p ownerId g o (o.feedMaterialized r j).1 := by
  unfold Owner.feedMaterialized
  split
  · exact h.follows
  · split
    · exact h.follows
    · refine h.accept hnew ?_ ⟨rfl, rfl, rfl, hepoch,
        { h.counters with materialization := j.materializationRevision.bounded }⟩
      exact settledStorage_reason _
        (admitted_phrase (by decide)).1
        (admitted_phrase (by decide)).1
        (admitted_phrase (by decide)).1

theorem feedAck_follows (j : AppendJoin) : Follows p ownerId g o (o.feedAck r j).1 := by
  unfold Owner.feedAck
  split
  · exact h.follows
  · dsimp only
    split
    · exact ⟨{ h with counters := { h.counters with } }, Or.inl rfl⟩
    · refine h.accept hnew ?_ ⟨rfl, rfl, rfl, hepoch,
        { h.counters with pending := le_trans (Nat.sub_le _ _) h.counters.pending }⟩
      exact settledStorage_reason _
        (admitted_phrase (by decide)).1
        (admitted_phrase (by decide)).1
        (admitted_phrase (by decide)).1

theorem feedArchive_follows (archiveRevision : Count) :
    Follows p ownerId g o (o.feedArchive r archiveRevision).1 := by
  unfold Owner.feedArchive
  split
  · exact h.follows
  · split
    · exact h.follows
    · refine h.accept hnew (admitted_phrase (by decide)).1
        ⟨rfl, rfl, rfl, hepoch, { h.counters with archive := ?_ }⟩
      intro n hn
      rw [← Option.some.inj hn]
      exact ⟨archiveRevision.positive, archiveRevision.bounded⟩

omit hepoch in
theorem failed_follows {f : FailureFields} (hreason : Admitted p maxReasonUtf8Bytes f.reason)
    (hroom : ¬ (f.kind.retained = false ∧ maxNonnegativeInt - f.recordCount.value < o.dropped))
    (hamends : Amends p o o') (hdropped : o'.dropped = o.dropped) :
    Follows p ownerId g o (o'.failed r f).1 := by
  refine h.accept hnew hreason ⟨hamends.ownerId, hamends.generation, hamends.revision,
    hamends.epoch, { hamends.counters with dropped := ?_ }⟩
  have hbounded := f.recordCount.bounded
  have hold := hamends.counters.dropped
  show (if f.kind.retained then o'.dropped else o'.dropped + f.recordCount.value) ≤
    maxNonnegativeInt
  cases hkind : f.kind.retained with
  | true => exact hold
  | false =>
      have hfree := not_lt.mp fun hlt => hroom ⟨hkind, hlt⟩
      simp only [Bool.false_eq_true, if_false]
      omega

theorem feedFailure_follows {f : FailureFields}
    (hreason : Admitted p maxReasonUtf8Bytes f.reason) :
    Follows p ownerId g o (o.feedFailure r f).1 := by
  unfold Owner.feedFailure
  split
  · exact h.follows
  · split
    · exact failTerminalCapacity_follows h hnew
        (admitted_phrase (by decide)).1
        ⟨rfl, rfl, rfl, hepoch, h.counters⟩
    · split
      · exact failTerminalCapacity_follows h hnew
          (admitted_phrase (by decide)).1
          ⟨rfl, rfl, rfl, hepoch, h.counters⟩
      · rename_i hroom
        split
        · split
          · exact h.follows
          · exact failed_follows h hnew hreason hroom ⟨rfl, rfl, rfl, hepoch, h.counters⟩ rfl
        · split
          · exact h.follows
          · split
            · exact h.follows
            · split
              · split
                · exact h.follows
                · exact failed_follows h hnew hreason hroom
                    ⟨rfl, rfl, rfl, hepoch, { h.counters with }⟩ rfl
              · dsimp only
                split
                · exact ⟨{ h with counters := { h.counters with } }, Or.inl rfl⟩
                · exact failed_follows h hnew hreason hroom
                    ⟨rfl, rfl, rfl, hepoch, { h.counters with
                      pending := le_trans (Nat.sub_le _ _) h.counters.pending }⟩ rfl

end Branches

theorem feed_follows [DecidableEq τ] {A : OutcomeAuthority τ} (h : Presents p ownerId g o)
    (hworded : Signed.Worded p r.signed) : Follows p ownerId g o (o.feed A r).1 := by
  unfold Owner.feed
  cases hpreflight : o.preflight A r with
  | error e => exact h.follows
  | ok isNew =>
      dsimp only
      split
      · exact h.follows
      · split
        · rename_i hisNew
          have hnew : o.receiptRevision < r.signed.revision.value := by
            rw [hisNew] at hpreflight
            exact lt_of_preflight hpreflight
          unfold Owner.feedNew
          split
          · exact feedLifecycle_follows h hnew hworded _
          · exact epochMatches_follows h fun hepoch => feedAppend_follows h hnew hepoch _ _ _
          · exact epochMatches_follows h fun hepoch => feedDirectCommit_follows h hnew hepoch _
          · exact epochMatches_follows h fun hepoch => feedMaterialized_follows h hnew hepoch _
          · exact epochMatches_follows h fun hepoch => feedAck_follows h hnew hepoch _
          · rename_i hfailure
            exact epochMatches_follows h fun hepoch =>
              feedFailure_follows h hnew hepoch (hworded.reason _ hfailure)
          · exact epochMatches_follows h fun hepoch => feedArchive_follows h hnew hepoch _
        · exact h.follows

theorem init_presents {A : OutcomeAuthority τ} :
    Presents p ownerId A.generationId (Owner.init A ownerId) := by
  refine ⟨rfl, rfl, le_rfl, Nat.zero_le _, ?_, ?_, ?_, "not_initialized",
    (admitted_phrase (by decide)).1, rfl⟩
  · intro hpositive
    exact absurd hpositive (Nat.not_succ_le_zero 0)
  · intro hpositive
    exact absurd hpositive (Nat.not_succ_le_zero 0)
  · exact
      { epoch := by simp [Owner.init]
        materialization := Nat.zero_le _
        archive := by simp [Owner.init]
        pending := Nat.zero_le _
        dropped := Nat.zero_le _ }

end Persistence

end Recording
end CryoDaq
