import CryoDaq.Recording.FeedCalls

/-!
# RECORDING is the truth

A run of the feed beside what really happened: when the last commit of the epoch
became durable, whether a record of the epoch was rejected, and which sessions were
begun.  After calls that keep within the bounds of the owners, RECORDING is shown
only for one unbroken session (`recording_kept`); a rejection past the bound of the
owner of persistence truth leaves the owners with two stories.
-/

namespace CryoDaq
namespace Recording

open Storage

/-- What a session shown by a snapshot belongs to. -/
def RecordingSnapshot.span (s : RecordingSnapshot) : Span :=
  ⟨s.experimentId, s.acquisitionEpochId, s.persistenceEpochId⟩

/-- The sessions begun, the last one first, after a call between two snapshots. -/
def begun (sessions : List (SessionId × Span)) (before now : RecordingSnapshot) :
    List (SessionId × Span) :=
  match now.recordingSessionId with
  | some id => if before.recordingSessionId = some id then sessions else (id, now.span) :: sessions
  | none => sessions

structure World (τ σ : Type) where
  feed : Feed τ σ
  lastDurable : Option Timestamp := none
  rejected : Bool := false
  sessions : List (SessionId × Span) := []

namespace World

variable {τ σ : Type}

def init (cfg : Config τ σ) : World τ σ where
  feed := .init cfg

variable [DecidableEq τ] [DecidableEq σ] (cfg : Config τ σ) (w : World τ σ)

/-- When the last commit of the epoch became durable, after a call. -/
def durable (r : Result τ σ) : Call → Option Timestamp
  | .persistenceStarted _ => if r.2 = none then none else w.lastDurable
  | .persistenceCommitted _ clock =>
      if r.1.persistenceOwner.directCommitRevision =
          w.feed.persistenceOwner.directCommitRevision then w.lastDurable
      else some clock
  | _ => w.lastDurable

/-- Whether a record of the epoch was rejected, after a call. -/
def lost (r : Result τ σ) : Call → Bool
  | .persistenceStarted _ => if r.2 = none then false else w.rejected
  | .persistenceRejected recordCount reason =>
      w.rejected || w.feed.reports cfg recordCount reason
  | _ => w.rejected

def step (c : Call) : World τ σ where
  feed := (w.feed.call cfg c).1
  lastDurable := w.durable (w.feed.call cfg c) c
  rejected := w.lost cfg (w.feed.call cfg c) c
  sessions := begun w.sessions w.feed.owner.snapshot (w.feed.call cfg c).1.owner.snapshot

/-- What RECORDING means at a reading of the clock. -/
structure Truthful (clock : Timestamp) : Prop where
  experiment : w.feed.owner.snapshot.experimentOperation = .active ∧
    w.feed.owner.snapshot.experimentId ≠ none
  acquisition : w.feed.owner.acquisitionRunning = true
  epoch : ∃ e, w.feed.owner.snapshot.acquisitionEpochId = some e ∧
    w.feed.owner.snapshot.persistenceEpochId = some e ∧
      w.feed.persistenceOwner.snapshot.recordingEpochId = some e
  live : w.feed.persistenceOwner.active = true
  accepted : w.rejected = false
  fresh : ∃ t, w.lastDurable = some t ∧ clock - t ≤ cfg.freshness
  available : w.feed.persistenceOwner.snapshot.storage = .available
  complete : w.feed.persistenceOwner.snapshot.droppedOrRejectedCount = 0

/-- What the feed promises while the calls keep to a condition. -/
structure Kept (ok : Feed τ σ → Call → Prop) : Prop where
  story : w.feed.owner.snapshot.persistenceEpochId ≠ none ↔
    w.feed.persistenceOwner.snapshot.storage = .available
  epoch : ∀ e, w.feed.owner.snapshot.persistenceEpochId = some e →
    w.feed.persistenceOwner.snapshot.recordingEpochId = some e ∧
      w.feed.persistenceOwner.snapshot.droppedOrRejectedCount = 0
  current : ∀ id, w.feed.owner.snapshot.recordingSessionId = some id →
    w.sessions.head? = some (id, w.feed.owner.snapshot.span)
  distinct : (w.sessions.map Prod.fst).Nodup
  rejected : w.rejected = true → w.feed.owner.snapshot.recording = false
  shown : ∀ clock, ok w.feed (.snapshot clock) → (w.feed.call cfg (.snapshot clock)).2 = none →
    (w.step cfg (.snapshot clock)).feed.owner.snapshot.recording = true →
      (w.step cfg (.snapshot clock)).Truthful cfg clock

end World

/-- What a run can reach with calls that keep to a condition. -/
inductive Reached {τ σ : Type} [DecidableEq τ] [DecidableEq σ] (cfg : Config τ σ)
    (ok : Feed τ σ → Call → Prop) : World τ σ → Prop
  | init : Reached cfg ok (.init cfg)
  | step {w : World τ σ} (c : Call) (h : Reached cfg ok w) (hok : ok w.feed c) :
      Reached cfg ok (w.step cfg c)

theorem Reached.mono {τ σ : Type} [DecidableEq τ] [DecidableEq σ] {cfg : Config τ σ}
    {ok ok' : Feed τ σ → Call → Prop} {w : World τ σ} (h : Reached cfg ok w)
    (hok : ∀ f c, ok f c → ok' f c) : Reached cfg ok' w := by
  induction h with
  | init => exact .init
  | step c _ hc ih => exact ih.step c (hok _ _ hc)

/-- A call within the bounds of the owners. -/
structure Careful {τ σ : Type} (cfg : Config τ σ) (f : Feed τ σ) (c : Call) : Prop where
  room : f.Room
  failures : ∀ recordCount reason, c = .persistenceRejected recordCount reason →
    f.reports cfg recordCount reason = true → f.Roomy

namespace Feed

variable {τ σ : Type} {cfg : Config τ σ} {f : Feed τ σ}

theorem Sound.told (h : f.Sound cfg) (hlossless : f.owner.persistenceLossless = true) :
    f.active = true ∧ ¬ f.Spoiled := by
  cases hactive : f.active with
  | false =>
      rw [(h.idle hactive).1] at hlossless
      cases hlossless
  | true =>
      refine ⟨rfl, fun hspoiled => ?_⟩
      rw [(h.spoiled hactive hspoiled).1] at hlossless
      cases hlossless

theorem Sound.story (h : f.Sound cfg) :
    f.owner.persistenceLossless = true ↔ f.persistenceOwner.storage = .available := by
  cases hactive : f.active with
  | false =>
      obtain ⟨hlossless, hstorage, _⟩ := h.idle hactive
      simp [hlossless, hstorage]
  | true =>
      by_cases hspoiled : f.Spoiled
      · obtain ⟨hlossless, hstorage, _⟩ := h.spoiled hactive hspoiled
        simp [hlossless, hstorage]
      · exact (h.clean hactive hspoiled).2

theorem Sound.not_recording (h : f.Sound cfg) (hlossless : f.owner.persistenceLossless = false) :
    f.owner.sessionId = none := by
  cases hsession : f.owner.sessionId with
  | none => rfl
  | some id =>
      have := (h.recording.session id hsession).lossless
      rw [hlossless] at this
      cases this

end Feed

namespace World

variable {τ σ : Type} {cfg : Config τ σ} {w : World τ σ}

structure Listed (o : RecordingOwner σ) (sessions : List (SessionId × Span)) : Prop where
  current : ∀ id, o.sessionId = some id → sessions.head? = some (id, o.span)
  bounded : ∀ p ∈ sessions, p.1.counter ≤ o.sessionCounter
  distinct : (sessions.map Prod.fst).Nodup

/-- What a run keeps. -/
structure Told (cfg : Config τ σ) (w : World τ σ) : Prop where
  sound : w.feed.Sound cfg
  rejected : w.feed.active = true → w.rejected = true → w.feed.Spoiled
  commit : w.feed.active = true → w.lastDurable = w.feed.lastCommitAt
  listed : Listed w.feed.owner w.sessions

theorem begun_listed {o o' : RecordingOwner σ} {sessions : List (SessionId × Span)}
    (h : Listed o sessions) (hsound : o.Sound) (hsound' : o'.Sound) (hmoves : o.Moves o') :
    Listed o' (begun sessions o.snapshot o'.snapshot) := by
  obtain ⟨reason, hsnapshot⟩ := hsound.presented
  obtain ⟨reason', hsnapshot'⟩ := hsound'.presented
  have hbounded : ∀ p ∈ sessions, p.1.counter ≤ o'.sessionCounter :=
    fun p hp => (h.bounded p hp).trans hmoves.counter_le
  have hspan : (o'.makeSnapshot reason').span = o'.span := rfl
  have hid : (o.makeSnapshot reason).recordingSessionId = o.sessionId := rfl
  have hid' : (o'.makeSnapshot reason').recordingSessionId = o'.sessionId := rfl
  rw [hsnapshot, hsnapshot', begun, hid', hid, hspan]
  cases hsession : o'.sessionId with
  | none =>
      refine ⟨fun id hsome => ?_, hbounded, h.distinct⟩
      rw [hsession] at hsome
      cases hsome
  | some id =>
      have hidentity : id.counter = o'.sessionCounter := by
        rw [(hsound'.session id hsession).identity]
      rcases hmoves.session with hnone | ⟨hsame, hsameSpan⟩ | hnew
      · rw [hsession] at hnone
        cases hnone
      · -- The session goes on.
        have hold : o.sessionId = some id := hsame.symm.trans hsession
        dsimp only
        rw [if_pos hold]
        refine ⟨fun id' hsome => ?_, hbounded, h.distinct⟩
        rw [← Option.some.inj (hsession.symm.trans hsome), h.current id hold,
          hsameSpan (by simp [hold])]
      · -- A new session begins: its counter is past all the others.
        have hfresh : ∀ p ∈ sessions, p.1.counter < id.counter := by
          intro p hp
          have := h.bounded p hp
          omega
        have hchanged : o.sessionId ≠ some id := by
          intro hold
          have : id.counter = o.sessionCounter := by rw [(hsound.session id hold).identity]
          omega
        dsimp only
        rw [if_neg hchanged]
        refine ⟨fun id' hsome => ?_, fun p hp => ?_, ?_⟩
        · rw [← Option.some.inj (hsession.symm.trans hsome)]
          rfl
        · rcases List.mem_cons.mp hp with rfl | hp
          · exact hidentity.le
          · exact hbounded p hp
        · refine List.nodup_cons.mpr ⟨fun hmem => ?_, h.distinct⟩
          obtain ⟨p, hp, hname⟩ := List.mem_map.mp hmem
          have hlt := hfresh p hp
          rw [hname] at hlt
          exact lt_irrefl _ hlt

theorem init_told : (init cfg).Told cfg where
  sound := Feed.init_sound
  rejected := by simp [init]
  commit := fun _ => rfl
  listed := ⟨by simp [init, Feed.init, RecordingOwner.init], by simp [init], by simp [init]⟩

theorem durable_eq {c : Call} {r : Result τ σ}
    (hstarts : ∀ epoch, c = .persistenceStarted epoch → r.2 ≠ none)
    (hdirect : r.1.persistenceOwner.directCommitRevision =
      w.feed.persistenceOwner.directCommitRevision) : w.durable r c = w.lastDurable := by
  cases c with
  | persistenceStarted epoch => exact if_neg (hstarts epoch rfl)
  | persistenceCommitted receipt clock => exact if_pos hdirect
  | _ => rfl

theorem lost_eq {c : Call} {r : Result τ σ}
    (hrejects : ∀ recordCount reason, c = .persistenceRejected recordCount reason →
      w.feed.reports cfg recordCount reason = false)
    (hstarts : ∀ epoch, c = .persistenceStarted epoch → r.2 ≠ none) :
    w.lost cfg r c = w.rejected := by
  cases c with
  | persistenceStarted epoch => exact if_neg (hstarts epoch rfl)
  | persistenceRejected recordCount reason => simp [lost, hrejects recordCount reason rfl]
  | _ => rfl

theorem told_truthful {clock : Timestamp} (h : w.Told cfg)
    (hrecording : w.feed.owner.snapshot.recording = true)
    (hfresh : ∀ t, w.feed.lastCommitAt = some t → clock - t ≤ cfg.freshness) :
    w.Truthful cfg clock := by
  obtain ⟨reason, hsnapshot⟩ := h.sound.recording.presented
  obtain ⟨reason', hpersistence⟩ := h.sound.presented
  rw [hsnapshot] at hrecording
  obtain ⟨id, hid⟩ := Option.isSome_iff_exists.mp hrecording
  have hin := h.sound.recording.session id hid
  obtain ⟨hactive, hspoiled⟩ := h.sound.told hin.lossless
  obtain ⟨hdropped, hstorage⟩ := h.sound.clean hactive hspoiled
  obtain ⟨hepoch, hcommit⟩ := h.sound.lossless hin.lossless
  obtain ⟨e, _, hlive, _⟩ := h.sound.live hactive
  obtain ⟨t, ht⟩ := Option.ne_none_iff_exists'.mp hcommit
  refine ⟨?_, hin.running, ⟨e, ?_⟩, h.sound.active.trans hactive, ?_,
    ⟨t, (h.commit hactive).trans ht, hfresh t ht⟩, ?_, ?_⟩
  · rw [hsnapshot]
    exact ⟨h.sound.recording.active hin.experiment, hin.experiment⟩
  · rw [hsnapshot, hpersistence]
    exact ⟨(hin.epoch.trans hepoch).trans hlive, hepoch.trans hlive, hlive⟩
  · cases hrejected : w.rejected with
    | false => rfl
    | true => exact absurd (h.rejected hactive hrejected) hspoiled
  · rw [hpersistence]
    exact hstorage.mp hin.lossless
  · rw [hpersistence]
    exact hdropped

section Steps

variable [DecidableEq τ] [DecidableEq σ]

theorem step_told {c : Call} (h : w.Told cfg) (hcareful : Careful cfg w.feed c) :
    (w.step cfg c).Told cfg := by
  cases Feed.call_after c h.sound hcareful.room hcareful.failures with
  | next hnext hrejects hstarts =>
      refine ⟨hnext.sound, fun hactive hrejected => ?_, fun hactive => ?_,
        begun_listed h.listed h.sound.recording hnext.sound.recording hnext.moves⟩
      · obtain ⟨hbefore, hspoiled, _⟩ := hnext.live hactive
        exact hspoiled (h.rejected hbefore ((lost_eq hrejects hstarts).symm.trans hrejected))
      · obtain ⟨hbefore, _, hcommit, hdirect⟩ := hnext.live hactive
        exact (durable_eq hstarts hdirect).trans ((h.commit hbefore).trans hcommit.symm)
  | started epoch hcall hreturns hstarted =>
      subst hcall
      refine ⟨hstarted.sound, fun _ hrejected => ?_, fun _ => ?_,
        begun_listed h.listed h.sound.recording hstarted.sound.recording hstarted.moves⟩
      · have hfalse : (w.step cfg (.persistenceStarted epoch)).rejected = false := if_pos hreturns
        rw [hfalse] at hrejected
        cases hrejected
      · have hnone : (w.step cfg (.persistenceStarted epoch)).lastDurable = none := if_pos hreturns
        exact hnone.trans hstarted.fresh.symm
  | commits receipt clock hcall hcommits =>
      subst hcall
      refine ⟨hcommits.sound,
        fun _ hrejected => hcommits.spoiled (h.rejected hcommits.active hrejected), fun _ => ?_,
        begun_listed h.listed h.sound.recording hcommits.sound.recording hcommits.moves⟩
      have hclock : (w.step cfg (.persistenceCommitted receipt clock)).lastDurable = some clock :=
        if_neg hcommits.direct
      exact hclock.trans hcommits.commit.symm
  | rejects recordCount reason hcall hrejects =>
      subst hcall
      refine ⟨hrejects.sound, fun _ _ => hrejects.spoiled, fun _ => ?_,
        begun_listed h.listed h.sound.recording hrejects.sound.recording hrejects.moves⟩
      exact (h.commit hrejects.active).trans hrejects.commit.symm

theorem told_kept (h : w.Told cfg) : w.Kept cfg (Careful cfg) := by
  obtain ⟨reason, hsnapshot⟩ := h.sound.recording.presented
  obtain ⟨reason', hpersistence⟩ := h.sound.presented
  have hepoch : w.feed.owner.snapshot.persistenceEpochId = w.feed.owner.persistenceEpochId := by
    rw [hsnapshot]
    rfl
  have hsession : w.feed.owner.snapshot.recordingSessionId = w.feed.owner.sessionId := by
    rw [hsnapshot]
    rfl
  have hstorage : w.feed.persistenceOwner.snapshot.storage = w.feed.persistenceOwner.storage := by
    rw [hpersistence]
    rfl
  refine ⟨?_, fun e he => ?_, fun id hid => ?_, h.listed.distinct, fun hrejected => ?_,
    fun clock hcareful hreturns hrecording => ?_⟩
  · rw [hepoch, hstorage, ← h.sound.recording.lossless]
    exact h.sound.story
  · have hlossless : w.feed.owner.persistenceLossless = true := by
      rw [h.sound.recording.lossless, ← hepoch, he]
      simp
    obtain ⟨hactive, hspoiled⟩ := h.sound.told hlossless
    rw [hpersistence]
    refine ⟨?_, (h.sound.clean hactive hspoiled).1⟩
    exact (h.sound.lossless hlossless).1.symm.trans (hepoch.symm.trans he)
  · rw [hsnapshot]
    exact h.listed.current id (hsession.symm.trans hid)
  · unfold RecordingSnapshot.recording
    rw [hsession]
    cases hlossless : w.feed.owner.persistenceLossless with
    | false => rw [h.sound.not_recording hlossless, Option.isSome_none]
    | true =>
        obtain ⟨hactive, hspoiled⟩ := h.sound.told hlossless
        exact absurd (h.rejected hactive hrejected) hspoiled
  · have htold := step_told h hcareful
    have hnot : w.feed.expire cfg clock = w.feed.call cfg (.snapshot clock) := rfl
    have hshown : (w.step cfg (.snapshot clock)).feed = (w.feed.expire cfg clock).1 := rfl
    rw [← hnot] at hreturns
    rcases Feed.expire_fresh h.sound hcareful.room hreturns with hlossless | ⟨hsame, hfresh⟩
    · obtain ⟨reason'', hsnapshot''⟩ := htold.sound.recording.presented
      rw [hsnapshot''] at hrecording
      obtain ⟨id, hid⟩ := Option.isSome_iff_exists.mp hrecording
      have hnone := htold.sound.not_recording hlossless
      exact absurd (hid.symm.trans hnone) (by simp)
    · refine told_truthful htold hrecording fun t ht => hfresh t ?_
      rw [← hsame]
      exact ht

theorem reached_told (h : Reached cfg (Careful cfg) w) : w.Told cfg := by
  induction h with
  | init => exact init_told
  | step c _ hcareful ih => exact step_told ih hcareful

end Steps

end World

section Promise

variable {τ σ : Type} [DecidableEq τ] [DecidableEq σ]

/-- After calls within the bounds of the owners, RECORDING is the truth. -/
theorem recording_kept (cfg : Config τ σ) (w : World τ σ) (h : Reached cfg (Careful cfg) w) :
    w.Kept cfg (Careful cfg) :=
  World.told_kept (World.reached_told h)

end Promise

/-- What the authorities of a bench sign with. -/
inductive Seal
  | experiment (fields : ExperimentFields)
  | acquisition (fields : AcquisitionFields)
  | persistence (fields : PersistenceFields)
deriving DecidableEq

def bench : Config Signed Seal where
  texts := fun _ _ => none
  persistenceAuthority := ⟨"engine-direct-sqlite-owner", "run-1", id⟩
  authority := ⟨"run-1", .experiment, .acquisition, .persistence⟩
  freshness := 30000000
  hasWriter := true

def session : World Signed Seal :=
  ((((World.init bench).step bench (.experimentActive 1 "exp-1" "cooldown" none)).step bench
    (.acquisitionRunning 1 "epoch-1")).step bench (.persistenceStarted "epoch-1")).step bench
      (.persistenceCommitted ⟨true, 1, 5⟩ 0)

theorem recording_kept_session : session.feed.owner.snapshot.recording = true ∧
    session.Kept bench (Careful bench) := by
  have hexperiment : Reached bench (Careful bench)
      ((World.init bench).step bench (.experimentActive 1 "exp-1" "cooldown" none)) :=
    .step _ .init ⟨⟨by decide, by decide⟩, by simp⟩
  have hacquisition := Reached.step (.acquisitionRunning 1 "epoch-1") hexperiment
    ⟨⟨by decide, by decide⟩, by simp⟩
  have hstarted := Reached.step (.persistenceStarted "epoch-1") hacquisition
    ⟨⟨by decide, by decide⟩, by simp⟩
  have hcommitted := Reached.step (.persistenceCommitted ⟨true, 1, 5⟩ 0) hstarted
    ⟨⟨by decide, by decide⟩, by simp⟩
  exact ⟨by decide, recording_kept bench session hcommitted⟩

section Promise

variable {τ σ : Type} [DecidableEq τ] [DecidableEq σ]

theorem Feed.rejected_past_bound {cfg : Config τ σ} {f : Feed τ σ} {recordCount : ℤ}
    {reason : String} (h : f.Sound cfg) (hroom : f.Room)
    (hlossless : f.owner.persistenceLossless = true)
    (hreports : f.reports cfg recordCount reason = true)
    (hfull : maxTrackedIdentities ≤ f.persistenceOwner.usedFailureIds.card) :
    (f.call cfg (.persistenceRejected recordCount reason)).1.owner = f.owner ∧
      (f.call cfg (.persistenceRejected recordCount reason)).1.persistenceOwner.snapshot.storage =
        .unavailable := by
  obtain ⟨hactive, hspoiled⟩ := h.told hlossless
  obtain ⟨epoch, hlive, hepoch, _⟩ := h.live hactive
  have hterminal : f.persistenceOwner.terminalUnavailableReason = none :=
    not_not.mp (not_or.mp hspoiled).2
  simp only [reports, liveEpoch_live hactive hlive, Option.any_some, Bool.and_eq_true,
    decide_eq_true_eq] at hreports
  obtain ⟨⟨hwriter, hcount⟩, hsigned⟩ := hreports
  have hcall : f.call cfg (.persistenceRejected recordCount reason) =
      f.persistenceRejected cfg recordCount reason := rfl
  rw [hcall]
  unfold persistenceRejected requirePersistence
  rw [if_pos hwriter, liveEpoch_live hactive hlive]
  dsimp only
  rw [if_neg (not_lt.mpr hcount)]
  have hname : "direct-rejection-" ++ toString (f.outcomeRevision + 1) =
      rejectionId (f.outcomeRevision + 1) := rfl
  rw [hname]
  cases hsign : signRejection cfg.texts cfg.persistenceAuthority (f.outcomeRevision + 1) epoch
      (rejectionId (f.outcomeRevision + 1)) reason recordCount with
  | error e =>
      rw [hsign] at hsigned
      cases hsigned
  | ok signed =>
      obtain ⟨count, fields, rfl, hvalue, hid, hkind, happend⟩ := signRejection_ok hsign
      rw [succ_toNat] at hvalue
      have hnew : f.persistenceOwner.receiptRevision < count.value := by
        rw [hvalue]
        exact Nat.lt_succ_of_le h.receiptRevision
      have hfresh : fields.failureId ∉ f.persistenceOwner.usedFailureIds := by
        rw [hid]
        exact h.fresh_rejectionId
      have howner : f.advance.persistenceOwner = f.persistenceOwner := rfl
      unfold feedPersistenceOwner
      dsimp only
      rw [howner]
      rcases @feed_rejection _ _ cfg.persistenceAuthority f.persistenceOwner count epoch fields
        hkind happend hnew (hroom.owner_lt h) hterminal hepoch (h.active.trans hactive) hfresh with
        ⟨hroomy, _⟩ | ⟨_, text, hfeed⟩
      · exact absurd hfull (not_le.mpr hroomy)
      · rw [hfeed]
        exact ⟨rfl, rfl⟩

end Promise

/-! ## The bound is reached -/

/-- The feed of an experiment and an acquisition, after the start of the first epoch. -/
def opened : Feed Signed Seal :=
  ((((Feed.init bench).call bench (.experimentActive 1 "exp-1" "cooldown" none)).1.call bench
    (.acquisitionRunning 1 "epoch-2")).1.call bench (.persistenceStarted "epoch-1")).1

/-- What rejections leave in the owner of persistence truth. -/
def floodedOwner (n : ℕ) (used : Finset String) (rest : Owner Signed) : Owner Signed :=
  { opened.persistenceOwner with
    revision := n + 1
    receiptRevision := n + 1
    dropped := n
    usedFailureIds := used
    lastToken := rest.lastToken
    storage := rest.storage
    snapshot := rest.snapshot }

/-- The persistence revision that the owner of recording truth saw last. -/
def seenAt (n : ℕ) : ℕ := if n = 0 then 0 else n + 1

theorem seenAt_le (n : ℕ) : seenAt n ≤ n + 1 := by
  unfold seenAt
  split <;> omega

/-- What rejections leave in the owner of recording truth. -/
def floodedRecording (n : ℕ) (token : Option Seal) (reason : String) : RecordingOwner Seal :=
  { opened.owner with
    revision := n + 2
    persistenceRevision := seenAt n
    persistenceToken := token
    snapshot :=
      { opened.owner with
        revision := n + 2
        persistenceRevision := seenAt n : RecordingOwner Seal }.makeSnapshot reason }

def flooded (n : ℕ) (used : Finset String) (rest : Owner Signed) (token : Option Seal)
    (reason : String) (latched : Bool) : Feed Signed Seal :=
  { opened with
    owner := floodedRecording n token reason
    persistenceOwner := floodedOwner n used rest
    outcomeRevision := n + 1
    latched := latched }

def lossOutcome (count : Count) : Issued PersistenceFields Seal :=
  ⟨"run-1", ⟨count, .loss, none⟩, .persistence ⟨count, .loss, none⟩⟩

theorem lossOutcome_fed {g : Feed Signed Seal} {count : Count}
    (hrevision : g.outcomeRevision = count.value)
    (hnew : g.owner.persistenceRevision < count.value)
    (hroom : g.owner.revision < maxNonnegativeInt) :
    (g.feedRecordingOwner bench .loss none).1 =
      { g with owner := g.owner.enterPersistence (lossOutcome count) } := by
  have hissue : bench.authority.persistence bench.texts g.outcomeRevision .loss none =
      .ok (lossOutcome count) := by
    unfold FeedAuthority.persistence
    rw [hrevision, countOf_nat count.positive count.bounded]
    rfl
  have hrecord := @RecordingOwner.feedPersistence_eq _ bench.authority g.owner _
    ⟨count, .loss, none⟩ hnew hroom
  unfold Feed.feedRecordingOwner
  rw [hissue]
  exact congrArg (fun o => ({ g with owner := o } : Feed Signed Seal)) (congrArg Prod.fst hrecord)

theorem flooded_step {n : ℕ} {used : Finset String} {rest : Owner Signed} {token : Option Seal}
    {reason : String} {latched : Bool} (hn : n < maxTrackedIdentities)
    (hcard : used.card = n) (hfresh : rejectionId (n + 2) ∉ used) :
    ∃ rest' token', ((flooded n used rest token reason latched).call bench
        (.persistenceRejected 1 "queue full")).1 =
      flooded (n + 1) (insert (rejectionId (n + 2)) used) rest' token' "persistence_loss"
        true := by
  have hle : n + 1 + 1 ≤ maxNonnegativeInt := by
    unfold maxTrackedIdentities at hn
    unfold maxNonnegativeInt
    omega
  have hroom : n + 1 < maxNonnegativeInt := hle
  have hrecording : n + 2 < maxNonnegativeInt := by
    unfold maxTrackedIdentities at hn
    unfold maxNonnegativeInt
    omega
  have hsign : signRejection bench.texts bench.persistenceAuthority ((n + 1 : ℕ) + 1) "epoch-1"
      (rejectionId (n + 2)) "queue full" 1 =
      .ok (bench.persistenceAuthority.issue ⟨⟨n + 1 + 1, Nat.le_add_left 1 _, hle⟩, "epoch-1",
        .failure ⟨rejectionId (n + 2), .rejection, none, "queue full", ⟨1, by decide, by decide⟩,
          rejection_identified⟩⟩) := by
    unfold signRejection checkCount
    rw [countOf_succ hle]
    rfl
  have hcall : (flooded n used rest token reason latched).call bench
        (.persistenceRejected 1 "queue full") =
      Result.andThen
        ((flooded n used rest token reason latched).advance.feedPersistenceOwner bench
          (signRejection bench.texts bench.persistenceAuthority ((n + 1 : ℕ) + 1) "epoch-1"
            (rejectionId (n + 2)) "queue full" 1))
        fun g =>
          { g with latched := true : Feed Signed Seal }.feedRecordingOwner bench .loss none := rfl
  have hpersistence : (flooded n used rest token reason latched).advance.persistenceOwner =
      floodedOwner n used rest := rfl
  rcases @feed_rejection _ _ bench.persistenceAuthority (floodedOwner n used rest)
    ⟨n + 1 + 1, Nat.le_add_left 1 _, hle⟩ "epoch-1"
    ⟨rejectionId (n + 2), .rejection, none, "queue full", ⟨1, by decide, by decide⟩,
      rejection_identified⟩ rfl rfl (Nat.lt_succ_self _) hroom rfl rfl rfl hfresh with
    ⟨_, text, hfeed⟩ | ⟨hfull, _⟩
  · rw [hcall, hsign]
    unfold Feed.feedPersistenceOwner
    dsimp only
    rw [hpersistence, hfeed]
    let told := (rejectIn (floodedOwner n used rest) (rejectionId (n + 2)) 1).accept
      (bench.persistenceAuthority.issue ⟨⟨n + 1 + 1, Nat.le_add_left 1 _, hle⟩, "epoch-1",
        .failure ⟨rejectionId (n + 2), .rejection, none, "queue full",
          ⟨1, by decide, by decide⟩, rejection_identified⟩⟩) text
    have hloss := @lossOutcome_fed
      { (flooded n used rest token reason latched).advance with
        persistenceOwner := told
        latched := true } ⟨n + 1 + 1, Nat.le_add_left 1 _, hle⟩ rfl
      (Nat.lt_succ_of_le (seenAt_le n)) hrecording
    exact ⟨told, some (lossOutcome ⟨n + 1 + 1, Nat.le_add_left 1 _, hle⟩).provenance, hloss⟩
  · rcases hfull with hfull | hfull
    · have : (floodedOwner n used rest).usedFailureIds.card = n := hcard
      omega
    · have : (floodedOwner n used rest).dropped = n := rfl
      unfold maxTrackedIdentities at hn
      unfold maxNonnegativeInt at hfull
      simp only at hfull
      omega

theorem flooded_reached (n : ℕ) (hn : n ≤ maxTrackedIdentities) :
    ∃ w used rest token reason latched, Reached bench (Careful bench) w ∧
      w.feed = flooded n used rest token reason latched ∧ used.card = n ∧
        ∀ id ∈ used, ∃ k ≤ n + 1, id = rejectionId k := by
  induction n with
  | zero =>
      have hfirst : Reached bench (Careful bench)
          ((World.init bench).step bench (.experimentActive 1 "exp-1" "cooldown" none)) :=
        .step _ .init ⟨⟨by decide, by decide⟩, by simp⟩
      have hsecond := Reached.step (.acquisitionRunning 1 "epoch-2") hfirst
        ⟨⟨by decide, by decide⟩, by simp⟩
      have hthird := Reached.step (.persistenceStarted "epoch-1") hsecond
        ⟨⟨by decide, by decide⟩, by simp⟩
      exact ⟨_, ∅, opened.persistenceOwner, none, "acquisition_running", false, hthird, rfl, rfl,
        by simp⟩
  | succ n ih =>
      obtain ⟨w, used, rest, token, reason, latched, hreached, hfeed, hcard, hnames⟩ :=
        ih (Nat.le_of_succ_le hn)
      have hfresh : rejectionId (n + 2) ∉ used := by
        intro hused
        obtain ⟨k, hk, hname⟩ := hnames _ hused
        have := rejectionId_injective hname
        omega
      obtain ⟨rest', token', hstep⟩ :=
        @flooded_step n used rest token reason latched hn hcard hfresh
      have hcareful : Careful bench w.feed (.persistenceRejected 1 "queue full") := by
        rw [hfeed]
        unfold maxTrackedIdentities at hn
        refine ⟨⟨?_, ?_⟩, fun _ _ _ _ hlossless => ?_⟩
        · simp only [flooded, maxNonnegativeInt]
          omega
        · simp only [flooded, floodedRecording, maxNonnegativeInt]
          omega
        · cases hlossless
      refine ⟨_, insert (rejectionId (n + 2)) used, rest', token', "persistence_loss", true,
        hreached.step _ hcareful, ?_, ?_, ?_⟩
      · rw [← hstep, ← hfeed]
        rfl
      · rw [Finset.card_insert_of_notMem hfresh, hcard]
      · intro id hid
        rcases Finset.mem_insert.mp hid with rfl | hold
        · exact ⟨n + 2, le_rfl, rfl⟩
        · obtain ⟨k, hk, hname⟩ := hnames id hold
          exact ⟨k, hk.trans (Nat.le_succ _), hname⟩

/-- The end of the first epoch. -/
def stopped (used : Finset String) (rest : Owner Signed) (token : Option Seal) (reason : String) :
    Feed Signed Seal :=
  { flooded 100000 used rest token reason true with
    persistenceOwner :=
      { floodedOwner 100000 used rest with
        revision := 100002
        receiptRevision := 100002
        active := false }
    outcomeRevision := 100002
    epoch := none
    active := false }

theorem stopped_eq (used : Finset String) (rest : Owner Signed) (token : Option Seal)
    (reason : String) (latched : Bool) :
    ((flooded 100000 used rest token reason latched).call bench .persistenceStopped).1 =
      stopped used
        ((flooded 100000 used rest token reason latched).call bench
          .persistenceStopped).1.persistenceOwner token reason := by
  rfl

/-- The second epoch. -/
def restarted (used : Finset String) (rest : Owner Signed) (token : Option Seal)
    (reason : String) : Feed Signed Seal :=
  { flooded 100000 used rest token reason false with
    persistenceOwner :=
      { floodedOwner 100000 used rest with
        revision := 100003
        receiptRevision := 100003
        usedEpochIds := {"epoch-2", "epoch-1"}
        epoch := some "epoch-2"
        dropped := 0
        active := true }
    outcomeRevision := 100003
    epoch := some "epoch-2"
    active := true }

theorem restarted_eq (used : Finset String) (rest : Owner Signed) (token : Option Seal)
    (reason : String) :
    ((stopped used rest token reason).call bench (.persistenceStarted "epoch-2")).1 =
      restarted used ((stopped used rest token reason).call bench
        (.persistenceStarted "epoch-2")).1.persistenceOwner token reason := by
  rfl

/-- The first commit of the second epoch. -/
def committed (used : Finset String) (rest : Owner Signed) (token : Option Seal)
    (reason : String) : Feed Signed Seal :=
  ((restarted used rest token reason).call bench (.persistenceCommitted ⟨true, 1, 1⟩ 0)).1

theorem committed_recording (used : Finset String) (rest : Owner Signed) (token : Option Seal)
    (reason : String) :
    (committed used rest token reason).owner.snapshot.recording = true ∧
      (committed used rest token reason).owner.persistenceLossless = true ∧
        (committed used rest token reason).persistenceOwner.usedFailureIds = used ∧
          (committed used rest token reason).reports bench 1 "late" = true :=
  ⟨rfl, rfl, rfl, rfl⟩

/-- After as many rejections as the owner of persistence truth can track, a careful run records
again. -/
theorem committed_reached : ∃ w : World Signed Seal, Reached bench (Careful bench) w ∧ w.feed.Room ∧
    w.feed.owner.snapshot.recording = true ∧ w.feed.owner.persistenceLossless = true ∧
      w.feed.reports bench 1 "late" = true ∧
        maxTrackedIdentities ≤ w.feed.persistenceOwner.usedFailureIds.card := by
  obtain ⟨w, used, rest, token, reason, latched, hreached, hfeed, hcard, _⟩ :=
    flooded_reached 100000 le_rfl
  have hstopped : ∃ rest', (w.step bench .persistenceStopped).feed =
      stopped used rest' token reason := by
    refine ⟨_, Eq.trans ?_ (stopped_eq used rest token reason latched)⟩
    rw [← hfeed]
    rfl
  obtain ⟨rest', hstopped⟩ := hstopped
  have hrestarted : ∃ rest'', ((w.step bench .persistenceStopped).step bench
      (.persistenceStarted "epoch-2")).feed = restarted used rest'' token reason := by
    refine ⟨_, Eq.trans ?_ (restarted_eq used rest' token reason)⟩
    rw [← hstopped]
    rfl
  obtain ⟨rest'', hrestarted⟩ := hrestarted
  have hcommitted : (((w.step bench .persistenceStopped).step bench
      (.persistenceStarted "epoch-2")).step bench (.persistenceCommitted ⟨true, 1, 1⟩ 0)).feed =
        committed used rest'' token reason := by
    unfold committed
    rw [← hrestarted]
    rfl
  have hstop : Careful bench w.feed .persistenceStopped := by
    rw [hfeed]
    exact ⟨⟨of_decide_eq_true rfl, of_decide_eq_true rfl⟩, by simp⟩
  have hstart : Careful bench (w.step bench .persistenceStopped).feed
      (.persistenceStarted "epoch-2") := by
    rw [hstopped]
    exact ⟨⟨of_decide_eq_true rfl, of_decide_eq_true rfl⟩, by simp⟩
  have hcommit : Careful bench ((w.step bench .persistenceStopped).step bench
      (.persistenceStarted "epoch-2")).feed (.persistenceCommitted ⟨true, 1, 1⟩ 0) := by
    rw [hrestarted]
    exact ⟨⟨of_decide_eq_true rfl, of_decide_eq_true rfl⟩, by simp⟩
  obtain ⟨hrecording, hlossless, hused, hreports⟩ := committed_recording used rest'' token reason
  refine ⟨_, ((hreached.step _ hstop).step _ hstart).step _ hcommit, ?_⟩
  rw [hcommitted]
  refine ⟨⟨of_decide_eq_true rfl, of_decide_eq_true rfl⟩, hrecording, hlossless, hreports, ?_⟩
  rw [hused, hcard]
  exact le_rfl

/-- The bound is reached: the claim fails after one more rejection. -/
theorem recording_two_stories :
    ¬ ∀ w : World Signed Seal, Reached bench (fun _ _ => True) w →
      w.Kept bench fun _ _ => True := by
  intro h
  obtain ⟨w, hreached, hroom, hrecording, hlossless, hreports, hfull⟩ := committed_reached
  have hsound := (World.reached_told hreached).sound
  obtain ⟨howner, hstorage⟩ := Feed.rejected_past_bound hsound hroom hlossless hreports hfull
  obtain ⟨reason, hsnapshot⟩ := hsound.recording.presented
  have hstory := (h _ ((hreached.mono fun _ _ _ => trivial).step
    (.persistenceRejected 1 "late") trivial)).story
  have hepoch : (w.feed.call bench
      (.persistenceRejected 1 "late")).1.owner.snapshot.persistenceEpochId ≠ none := by
    rw [howner, hsnapshot]
    exact hsound.recording.lossless.mp hlossless
  have havailable := hstory.mp hepoch
  have hsame : (w.step bench (.persistenceRejected 1 "late")).feed =
      (w.feed.call bench (.persistenceRejected 1 "late")).1 := rfl
  rw [hsame, hstorage] at havailable
  cases havailable

end Recording
end CryoDaq
