import CryoDaq.Recording.OwnerSteps
import Std.Data.String.ToNat

/-!
# What holds of the feed

**One story.**  The two owners are told the same story (`Feed.Sound`): the
persistence is lossless for the one exactly when the storage is available for the
other.  `Next` says what a call leaves of the live epoch.

**Room.**  The counters of the feed and of the owners are bounded, and the owner of
persistence truth has a bound on its failures (`Room`, `Roomy`).
-/

namespace CryoDaq
namespace Recording

open Storage

def rejectionId (revision : ℕ) : String := "direct-rejection-" ++ toString revision

theorem rejectionId_injective {m n : ℕ} (h : rejectionId m = rejectionId n) : m = n := by
  exact Nat.repr_injective ((String.append_right_inj _).mp h)

theorem countOf_eq {value : ℤ} {count : Count} (h : countOf value = some count) :
    count.value = value.toNat := by
  unfold countOf at h
  split at h
  · rw [← Option.some.inj h]
  · cases h

theorem countOf_nat {n : ℕ} (hpos : 1 ≤ n) (hle : n ≤ maxNonnegativeInt) :
    countOf (n : ℤ) = some ⟨n, hpos, hle⟩ := by
  unfold countOf
  rw [dif_pos (by simpa using ⟨hpos, hle⟩)]
  simp

theorem countOf_succ {n : ℕ} (hle : n + 1 ≤ maxNonnegativeInt) :
    countOf ((n : ℤ) + 1) = some ⟨n + 1, Nat.le_add_left 1 n, hle⟩ := by
  have hcast : ((n : ℤ) + 1) = ((n + 1 : ℕ) : ℤ) := by omega
  rw [hcast]
  exact countOf_nat _ hle

section Signing

variable {τ : Type} {texts : Texts} {A : OutcomeAuthority τ} {epoch : String}

theorem checkCount_ok {field : String} {value : ℤ} {count : Count}
    (h : checkCount field value = .ok count) : countOf value = some count := by
  unfold checkCount at h
  split at h
  · rename_i hcount
    rw [hcount, Except.ok.inj h]
  · cases h

theorem bind_ok {α β : Type} {x : Except Refusal α} {next : α → Except Refusal β} {b : β}
    (h : (x >>= next) = .ok b) : ∃ a, x = .ok a ∧ next a = .ok b := by
  cases x with
  | error e => cases h
  | ok a => exact ⟨a, rfl, h⟩

theorem signLifecycle_eq {n : ℕ} {state : OwnerLifecycle} (hle : n + 1 ≤ maxNonnegativeInt)
    (htext : texts maxIdUtf8Bytes epoch = none) :
    signLifecycle texts A (n + 1) epoch state =
      .ok (A.issue ⟨⟨n + 1, Nat.le_add_left 1 n, hle⟩, epoch, .lifecycle state⟩) := by
  unfold signLifecycle checkCount checkText
  rw [countOf_succ hle, htext]
  rfl

theorem signLifecycle_ok {revision : ℤ} {state : OwnerLifecycle} {receipt : Receipt τ}
    (h : signLifecycle texts A revision epoch state = .ok receipt) :
    ∃ count, receipt = A.issue ⟨count, epoch, .lifecycle state⟩ ∧ count.value = revision.toNat ∧
      texts maxIdUtf8Bytes epoch = none := by
  obtain ⟨count, hcount, h⟩ := bind_ok h
  obtain ⟨_, htext, h⟩ := bind_ok h
  refine ⟨count, (Except.ok.inj h).symm, countOf_eq (checkCount_ok hcount), ?_⟩
  unfold checkText at htext
  cases hepoch : texts maxIdUtf8Bytes epoch with
  | none => rfl
  | some fault =>
      rw [hepoch] at htext
      cases htext

theorem signDirectCommit_ok {revision source records : ℤ} {destination : String}
    {receipt : Receipt τ}
    (h : signDirectCommit texts A revision epoch source destination records = .ok receipt) :
    ∃ count sourceCount recordCount,
      receipt = A.issue ⟨count, epoch, .directCommit sourceCount destination recordCount⟩ ∧
        count.value = revision.toNat ∧ sourceCount.value = source.toNat := by
  obtain ⟨count, hcount, h⟩ := bind_ok h
  obtain ⟨_, _, h⟩ := bind_ok h
  obtain ⟨sourceCount, hsource, h⟩ := bind_ok h
  obtain ⟨_, _, h⟩ := bind_ok h
  obtain ⟨recordCount, _, h⟩ := bind_ok h
  exact ⟨count, sourceCount, recordCount, (Except.ok.inj h).symm, countOf_eq (checkCount_ok hcount),
    countOf_eq (checkCount_ok hsource)⟩

theorem signRejection_ok {revision records : ℤ} {failureId reason : String} {receipt : Receipt τ}
    (h : signRejection texts A revision epoch failureId reason records = .ok receipt) :
    ∃ count fields, receipt = A.issue ⟨count, epoch, .failure fields⟩ ∧
      count.value = revision.toNat ∧ fields.failureId = failureId ∧ fields.kind = .rejection ∧
        fields.append = none := by
  obtain ⟨count, hcount, h⟩ := bind_ok h
  obtain ⟨_, _, h⟩ := bind_ok h
  obtain ⟨_, _, h⟩ := bind_ok h
  obtain ⟨_, _, h⟩ := bind_ok h
  obtain ⟨recordCount, _, h⟩ := bind_ok h
  exact ⟨count, _, (Except.ok.inj h).symm, countOf_eq (checkCount_ok hcount), rfl, rfl, rfl⟩

end Signing

namespace Feed

variable {τ σ : Type}

/-- The live epoch cannot be lossless any more. -/
def Spoiled (f : Feed τ σ) : Prop :=
  f.latched = true ∨ f.persistenceOwner.terminalUnavailableReason ≠ none

structure Sound (cfg : Config τ σ) (f : Feed τ σ) : Prop where
  recording : f.owner.Sound
  presented : ∃ reason, f.persistenceOwner.snapshot = f.persistenceOwner.makeSnapshot reason
  pending : f.persistenceOwner.pending.entries = []
  spool : f.persistenceOwner.spoolSeen = false
  receiptRevision : f.persistenceOwner.receiptRevision ≤ f.outcomeRevision
  revision : f.persistenceOwner.revision ≤ f.outcomeRevision
  persistenceRevision : f.owner.persistenceRevision ≤ f.outcomeRevision
  source : f.persistenceOwner.directCommitRevision ≤ f.sourceRevision
  failures : ∀ id ∈ f.persistenceOwner.usedFailureIds,
    ∃ n ≤ f.outcomeRevision, id = rejectionId n
  active : f.persistenceOwner.active = f.active
  idle : f.active = false → f.owner.persistenceLossless = false ∧
    f.persistenceOwner.storage ≠ .available ∧ f.persistenceOwner.terminalUnavailableReason = none
  live : f.active = true → ∃ e, f.epoch = some e ∧ f.persistenceOwner.epoch = some e ∧
    cfg.texts maxIdUtf8Bytes e = none
  clean : f.active = true → ¬ f.Spoiled → f.persistenceOwner.dropped = 0 ∧
    (f.owner.persistenceLossless = true ↔ f.persistenceOwner.storage = .available)
  spoiled : f.active = true → f.Spoiled → f.owner.persistenceLossless = false ∧
    f.persistenceOwner.storage ≠ .available ∧
      (f.persistenceOwner.dropped ≠ 0 ∨ f.persistenceOwner.terminalUnavailableReason ≠ none)
  lossless : f.owner.persistenceLossless = true →
    f.owner.persistenceEpochId = f.persistenceOwner.epoch ∧ f.lastCommitAt ≠ none

structure Room (f : Feed τ σ) : Prop where
  outcome : f.outcomeRevision + 2 ≤ maxNonnegativeInt
  owner : f.owner.revision + 2 ≤ maxNonnegativeInt

/-- A call after which the epoch goes on only with its latch and its last commit. -/
structure Next (cfg : Config τ σ) (f g : Feed τ σ) : Prop where
  sound : g.Sound cfg
  moves : f.owner.Moves g.owner
  live : g.active = true →
    f.active = true ∧ (f.Spoiled → g.Spoiled) ∧ g.lastCommitAt = f.lastCommitAt ∧
      g.persistenceOwner.directCommitRevision = f.persistenceOwner.directCommitRevision

variable {cfg : Config τ σ} {f g : Feed τ σ}

theorem liveEpoch_idle (h : f.active = false) : f.liveEpoch = none := by
  simp [liveEpoch, h]

theorem liveEpoch_live {e : String} (h : f.active = true) (hepoch : f.epoch = some e) :
    f.liveEpoch = some e := by
  simp [liveEpoch, h, hepoch]

theorem Next.refl (h : f.Sound cfg) : Next cfg f f :=
  ⟨h, .refl _, fun hactive => ⟨hactive, id, rfl, rfl⟩⟩

theorem Sound.advance (h : f.Sound cfg) : f.advance.Sound cfg where
  recording := h.recording
  presented := h.presented
  pending := h.pending
  spool := h.spool
  receiptRevision := h.receiptRevision.trans (Nat.le_succ _)
  revision := h.revision.trans (Nat.le_succ _)
  persistenceRevision := h.persistenceRevision.trans (Nat.le_succ _)
  source := h.source
  failures := fun id hid => by
    obtain ⟨n, hn, hname⟩ := h.failures id hid
    exact ⟨n, hn.trans (Nat.le_succ _), hname⟩
  active := h.active
  idle := h.idle
  live := h.live
  clean := h.clean
  spoiled := h.spoiled
  lossless := h.lossless

theorem Next.advance (h : f.Sound cfg) : Next cfg f f.advance :=
  ⟨h.advance, .refl _, fun hactive => ⟨hactive, id, rfl, rfl⟩⟩

/-- A feed whose owner of recording truth learned about the experiment or the acquisition. -/
theorem Sound.aside {o : RecordingOwner σ} (h : f.Sound cfg) (ho : f.owner.Aside o)
    (experimentRevision acquisitionRevision : ℤ)
    (experimentPayload acquisitionPayload : Option Payload) :
    ({ f with
      owner := o
      experimentRevision := experimentRevision
      experimentPayload := experimentPayload
      acquisitionRevision := acquisitionRevision
      acquisitionPayload := acquisitionPayload } : Feed τ σ).Sound cfg where
  recording := ho.sound
  presented := h.presented
  pending := h.pending
  spool := h.spool
  receiptRevision := h.receiptRevision
  revision := h.revision
  persistenceRevision := ho.revision.le.trans h.persistenceRevision
  source := h.source
  failures := h.failures
  active := h.active
  idle := by
    rw [ho.lossless]
    exact h.idle
  live := h.live
  clean := by
    rw [ho.lossless]
    exact h.clean
  spoiled := by
    rw [ho.lossless]
    exact h.spoiled
  lossless := by
    rw [ho.lossless, ho.epoch]
    exact h.lossless

theorem Next.aside {o : RecordingOwner σ} (h : f.Sound cfg) (ho : f.owner.Aside o)
    (experimentRevision acquisitionRevision : ℤ)
    (experimentPayload acquisitionPayload : Option Payload) :
    Next cfg f { f with
      owner := o
      experimentRevision := experimentRevision
      experimentPayload := experimentPayload
      acquisitionRevision := acquisitionRevision
      acquisitionPayload := acquisitionPayload } :=
  ⟨h.aside ho _ _ _ _, ho.moves, fun hactive => ⟨hactive, id, rfl, rfl⟩⟩

/-! ## The end of an epoch -/

theorem feedRecordingOwner_spec [DecidableEq σ] {state : PersistenceLifecycle}
    {epoch : Option String}
    (hsound : f.owner.Sound) (hstate : state = .lossless ↔ epoch ≠ none)
    (htext : ∀ e, epoch = some e → cfg.texts maxIdUtf8Bytes e = none)
    (hlt : f.owner.persistenceRevision < f.outcomeRevision)
    (hle : f.outcomeRevision ≤ maxNonnegativeInt) (hroom : f.owner.revision < maxNonnegativeInt) :
    ∃ o fields, f.feedRecordingOwner cfg state epoch = ({ f with owner := o }, none) ∧
      f.owner.Enters o fields ∧ fields.state = state ∧ fields.persistenceEpochId = epoch ∧
        fields.revision.value = f.outcomeRevision := by
  have hpos : 1 ≤ f.outcomeRevision := Nat.one_le_of_lt hlt
  have hissue : cfg.authority.persistence cfg.texts f.outcomeRevision state epoch =
      .ok ⟨cfg.authority.generationId, ⟨⟨f.outcomeRevision, hpos, hle⟩, state, epoch⟩,
        cfg.authority.persistenceToken ⟨⟨f.outcomeRevision, hpos, hle⟩, state, epoch⟩⟩ := by
    unfold FeedAuthority.persistence
    rw [countOf_nat hpos hle]
    cases epoch with
    | none => simp only [textError, if_pos hstate]
    | some e => simp only [textError, htext e rfl, if_pos hstate]
  have henters := @RecordingOwner.enterPersistence_enters _ f.owner
    ⟨cfg.authority.generationId, ⟨⟨f.outcomeRevision, hpos, hle⟩, state, epoch⟩,
      cfg.authority.persistenceToken ⟨⟨f.outcomeRevision, hpos, hle⟩, state, epoch⟩⟩ hsound hstate
  refine ⟨_, _, ?_, henters, rfl, rfl, rfl⟩
  unfold feedRecordingOwner
  rw [hissue]
  dsimp only
  rw [RecordingOwner.feedPersistence_eq hlt hroom]

/-- What the end of `__terminalize_persistence` leaves behind. -/
structure Closed (f g : Feed τ σ) : Prop where
  recording : g.owner.Sound
  moves : f.owner.Moves g.owner
  lossless : g.owner.persistenceLossless = false
  outcome : f.outcomeRevision ≤ g.outcomeRevision
  persistenceRevision : g.owner.persistenceRevision ≤ g.outcomeRevision
  persistenceOwner : g.persistenceOwner = f.persistenceOwner
  source : g.sourceRevision = f.sourceRevision
  inactive : g.active = false

theorem closePersistence_spec [DecidableEq σ] (hsound : f.owner.Sound)
    (hrevision : f.owner.persistenceRevision ≤ f.outcomeRevision)
    (hroom : f.owner.persistenceLossless = true →
      f.outcomeRevision + 1 ≤ maxNonnegativeInt ∧ f.owner.revision < maxNonnegativeInt) :
    (f.closePersistence cfg).2 = none ∧ Closed f (f.closePersistence cfg).1 := by
  obtain ⟨reason, hsnapshot⟩ := hsound.presented
  unfold closePersistence
  dsimp only
  split
  · rename_i hepoch
    have hlossless : f.owner.persistenceLossless = true := by
      rw [hsnapshot] at hepoch
      exact hsound.lossless.mpr hepoch
    obtain ⟨houtcome, howner⟩ := hroom hlossless
    obtain ⟨o, fields, heq, henters, hstate, hnone, hvalue⟩ :=
      @feedRecordingOwner_spec _ _ cfg
        (advance { f with active := false, latched := true, epoch := none, lastCommitAt := none }) _
        .unavailable none hsound (by simp) (by simp) (Nat.lt_succ_of_le hrevision) houtcome howner
    rw [heq]
    refine ⟨rfl, henters.sound, henters.moves, ?_, Nat.le_succ _, ?_, rfl, rfl, rfl⟩
    · rw [henters.lossless, hstate]
      rfl
    · rw [henters.revision, hvalue]
  · rename_i hepoch
    have hlossless : f.owner.persistenceLossless = false := by
      rw [hsnapshot] at hepoch
      by_contra hne
      exact hepoch (hsound.lossless.mp (by simpa using hne))
    exact ⟨rfl, hsound, .refl _, hlossless, le_rfl, hrevision, rfl, rfl, rfl⟩

theorem Closed.next (hclosed : Closed f g) (hpresented : ∃ reason,
      f.persistenceOwner.snapshot = f.persistenceOwner.makeSnapshot reason)
    (hpending : f.persistenceOwner.pending.entries = [])
    (hspool : f.persistenceOwner.spoolSeen = false)
    (hreceipt : f.persistenceOwner.receiptRevision ≤ f.outcomeRevision)
    (hrevision : f.persistenceOwner.revision ≤ f.outcomeRevision)
    (hsource : f.persistenceOwner.directCommitRevision ≤ f.sourceRevision)
    (hfailures : ∀ id ∈ f.persistenceOwner.usedFailureIds,
      ∃ n ≤ f.outcomeRevision, id = rejectionId n)
    (hactive : f.persistenceOwner.active = false)
    (hstorage : f.persistenceOwner.storage ≠ .available)
    (hterminal : f.persistenceOwner.terminalUnavailableReason = none) :
    g.Sound cfg := by
  have hinactive := hclosed.inactive
  refine ⟨hclosed.recording, ?_, ?_, ?_, ?_, ?_, hclosed.persistenceRevision, ?_, ?_, ?_, ?_, ?_,
    ?_, ?_, ?_⟩
  · rw [hclosed.persistenceOwner]
    exact hpresented
  · rw [hclosed.persistenceOwner]
    exact hpending
  · rw [hclosed.persistenceOwner]
    exact hspool
  · rw [hclosed.persistenceOwner]
    exact hreceipt.trans hclosed.outcome
  · rw [hclosed.persistenceOwner]
    exact hrevision.trans hclosed.outcome
  · rw [hclosed.persistenceOwner, hclosed.source]
    exact hsource
  · rw [hclosed.persistenceOwner]
    intro id hid
    obtain ⟨n, hn, hname⟩ := hfailures id hid
    exact ⟨n, hn.trans hclosed.outcome, hname⟩
  · rw [hclosed.persistenceOwner, hactive, hinactive]
  · intro _
    rw [hclosed.persistenceOwner]
    exact ⟨hclosed.lossless, hstorage, hterminal⟩
  · intro h
    rw [hinactive] at h
    cases h
  · intro h
    rw [hinactive] at h
    cases h
  · intro h
    rw [hinactive] at h
    cases h
  · intro h
    rw [hclosed.lossless] at h
    cases h

theorem andThen_raising {r : Result τ σ} {next : Feed τ σ → Result τ σ}
    (h : ∀ g, (next g).1 = g ∧ (next g).2 ≠ none) :
    (r.andThen next).1 = r.1 ∧ (r.andThen next).2 ≠ none := by
  unfold Result.andThen
  cases hr : r.2 with
  | some e => exact ⟨rfl, by simp⟩
  | none => exact h r.1

theorem succ_toNat (n : ℕ) : ((n : ℤ) + 1).toNat = n + 1 := by omega

theorem Room.owner_lt (h : f.Sound cfg) (hroom : f.Room) :
    f.persistenceOwner.revision < maxNonnegativeInt := by
  have hrevision := h.revision
  have houtcome := hroom.outcome
  omega

/-- A commit that the owner of persistence truth accepts. -/
structure Commits (cfg : Config τ σ) (f g : Feed τ σ) (clock : Timestamp) : Prop where
  sound : g.Sound cfg
  moves : f.owner.Moves g.owner
  active : f.active = true
  spoiled : f.Spoiled → g.Spoiled
  commit : g.lastCommitAt = some clock
  direct : g.persistenceOwner.directCommitRevision ≠ f.persistenceOwner.directCommitRevision

theorem recordCommit_spec [DecidableEq σ] {epoch : String} {source : ℕ} {clock : Timestamp}
    {p : Owner τ} {reason : String} {receipt : Receipt τ} (h : f.Sound cfg) (hroom : f.Room)
    (hactive : f.active = true) (hepoch : f.persistenceOwner.epoch = some epoch)
    (hlive : f.epoch = some epoch) (htext : cfg.texts maxIdUtf8Bytes epoch = none)
    (hacquisition : f.owner.acquisitionEpochId = some epoch)
    (hsource : f.persistenceOwner.directCommitRevision < source)
    (hterminal : f.persistenceOwner.terminalUnavailableReason = none)
    (hreceipt : receipt.signed.revision.value = f.outcomeRevision + 1)
    (hp : p = (commitTo f.persistenceOwner source).accept receipt reason) :
    Commits cfg f
      (({ f.advance with persistenceOwner := p } : Feed τ σ).recordCommit cfg epoch source clock).1
      clock := by
  subst hp
  have hdirect : source ≠ f.persistenceOwner.directCommitRevision := hsource.ne'
  have hrevision : receipt.signed.revision.value ≤ f.outcomeRevision + 1 := hreceipt.le
  unfold recordCommit
  dsimp only
  split
  · rename_i hlatched
    obtain ⟨hlossless, _, hdropped⟩ := h.spoiled hactive (.inl hlatched)
    have hdropped' : f.persistenceOwner.dropped ≠ 0 := by
      rcases hdropped with hd | hd
      · exact hd
      · exact absurd hterminal hd
    refine ⟨⟨h.recording, ⟨_, rfl⟩, h.pending, h.spool, hrevision, Nat.succ_le_succ h.revision,
      h.persistenceRevision.trans (Nat.le_succ _), le_rfl, h.advance.failures, h.active, ?_,
      fun _ => ⟨epoch, hlive, hepoch, htext⟩, ?_, fun _ _ => ⟨hlossless, ?_, .inl hdropped'⟩, ?_⟩,
      .refl _, hactive, id, rfl, hdirect⟩
    · intro hidle
      exact absurd (hactive.symm.trans hidle) (by simp)
    · exact fun _ hclean => absurd (.inl hlatched) hclean
    · simp [commitTo, Owner.accept, hdropped']
    · intro hloss
      exact absurd (hlossless.symm.trans hloss) (by simp)
  · rename_i hlatched
    have hclean : ¬ f.Spoiled := not_or.mpr ⟨hlatched, not_not.mpr hterminal⟩
    obtain ⟨hdropped, _⟩ := h.clean hactive hclean
    have howner := hroom.owner
    have houtcome := hroom.outcome
    obtain ⟨o, fields, heq, henters, hstate, hsome, hvalue⟩ := @feedRecordingOwner_spec _ _ cfg
      { f.advance with
        persistenceOwner := (commitTo f.persistenceOwner source).accept receipt reason
        sourceRevision := source
        lastCommitAt := some clock } _ .lossless (some epoch) h.recording (by simp)
      (fun e he => by rw [← Option.some.inj he]; exact htext)
      (Nat.lt_succ_of_le h.persistenceRevision) (by simp only [advance]; omega)
      (by simp only [advance]; omega)
    rw [heq]
    unfold Result.andThen beginRecordingEpoch
    dsimp only
    have hnext : o.revision = f.owner.revision + 1 := henters.next
    have hoacquisition : o.acquisitionEpochId = some epoch := henters.acquisition.trans hacquisition
    have hoepoch : o.persistenceEpochId = some epoch := henters.epoch.trans hsome
    obtain ⟨_, hosound, homoves, holossless, hoepoch', horevision⟩ :=
      RecordingOwner.begin_spec henters.sound (by omega) (hoacquisition.trans hoepoch.symm)
    have hloss : o.beginRecordingEpoch.1.persistenceLossless = true := by
      rw [holossless, henters.lossless, hstate]
      rfl
    have hvalue' : fields.revision.value = f.outcomeRevision + 1 := hvalue
    refine ⟨⟨hosound, ⟨_, rfl⟩, h.pending, h.spool, hrevision, Nat.succ_le_succ h.revision, ?_,
      le_rfl, h.advance.failures, h.active, ?_, fun _ => ⟨epoch, hlive, hepoch, htext⟩,
      fun _ _ => ⟨hdropped, ?_⟩, ?_, fun _ => ⟨?_, by simp⟩⟩,
      henters.moves.trans homoves, hactive, id, rfl, hdirect⟩
    · rw [horevision, henters.revision, hvalue']
      exact le_rfl
    · intro hidle
      exact absurd (hactive.symm.trans hidle) (by simp)
    · simp [hloss, commitTo, Owner.accept, hdropped]
    · exact fun _ hspoiled => absurd hspoiled hclean
    · rw [hoepoch', hoepoch]
      exact hepoch.symm

/-- While the epoch is lossless the owner of persistence truth can take one more rejection. -/
def Roomy (f : Feed τ σ) : Prop :=
  f.owner.persistenceLossless = true → f.persistenceOwner.usedFailureIds.card < maxTrackedIdentities

/-- What a reported rejection leaves behind. -/
structure Rejects (cfg : Config τ σ) (f g : Feed τ σ) : Prop where
  sound : g.Sound cfg
  moves : f.owner.Moves g.owner
  active : f.active = true
  spoiled : g.Spoiled
  commit : g.lastCommitAt = f.lastCommitAt
  direct : g.persistenceOwner.directCommitRevision = f.persistenceOwner.directCommitRevision

theorem rejected_spec [DecidableEq σ] {p : Owner τ} {reason failureId : String} {records : ℕ}
    {receipt : Receipt τ} (h : f.Sound cfg) (hroom : f.Room) (hactive : f.active = true)
    (hid : failureId = rejectionId (f.outcomeRevision + 1)) (hrecords : 1 ≤ records)
    (hreceipt : receipt.signed.revision.value = f.outcomeRevision + 1)
    (hp : p = (rejectIn f.persistenceOwner failureId records).accept receipt reason) :
    Rejects cfg f
      (({ f.advance with persistenceOwner := p, latched := true } : Feed τ σ).feedRecordingOwner cfg
        .loss none).1 := by
  subst hp
  have howner := hroom.owner
  have houtcome := hroom.outcome
  have hrevision : receipt.signed.revision.value ≤ f.outcomeRevision + 1 := hreceipt.le
  obtain ⟨o, fields, heq, henters, hstate, hnone, hvalue⟩ := @feedRecordingOwner_spec _ _ cfg
    { f.advance with
      persistenceOwner := (rejectIn f.persistenceOwner failureId records).accept receipt reason
      latched := true } _ .loss none h.recording (by simp) (by simp)
    (Nat.lt_succ_of_le h.persistenceRevision) (by simp only [advance]; omega) (by
      simp only [advance]
      omega)
  rw [heq]
  have hlossless : o.persistenceLossless = false := by
    rw [henters.lossless, hstate]
    rfl
  have hvalue' : fields.revision.value = f.outcomeRevision + 1 := hvalue
  refine ⟨⟨henters.sound, ⟨_, rfl⟩, h.pending, h.spool, hrevision, Nat.succ_le_succ h.revision, ?_,
    h.source, ?_, h.active, ?_, h.live, fun _ hclean => absurd (.inl rfl) hclean,
    fun _ _ => ⟨hlossless, ?_, .inl ?_⟩, ?_⟩, henters.moves, hactive, .inl rfl, rfl, rfl⟩
  · rw [henters.revision, hvalue']
    exact le_rfl
  · intro id hused
    have hused' : id = failureId ∨ id ∈ f.persistenceOwner.usedFailureIds := by
      simpa [rejectIn, Owner.accept] using hused
    rcases hused' with rfl | hold
    · exact ⟨f.outcomeRevision + 1, le_rfl, hid⟩
    · exact h.advance.failures id hold
  · intro hidle
    exact absurd (hactive.symm.trans hidle) (by simp)
  · simp [rejectIn, Owner.accept]
  · simp only [rejectIn, Owner.accept]
    omega
  · intro hloss
    exact absurd (hlossless.symm.trans hloss) (by simp)

theorem Sound.fresh_rejectionId (h : f.Sound cfg) :
    rejectionId (f.outcomeRevision + 1) ∉ f.persistenceOwner.usedFailureIds := by
  intro hused
  obtain ⟨n, hn, hname⟩ := h.failures _ hused
  have := rejectionId_injective hname
  omega

theorem Sound.not_lossless_of_full (h : f.Sound cfg) (hactive : f.active = true) (hroomy : f.Roomy)
    (hfull : maxTrackedIdentities ≤ f.persistenceOwner.usedFailureIds.card ∨
      f.persistenceOwner.dropped ≠ 0) : f.owner.persistenceLossless = false := by
  by_contra hne
  have hlossless : f.owner.persistenceLossless = true := by simpa using hne
  rcases hfull with hcard | hdropped
  · exact absurd (hroomy hlossless) (not_lt.mpr hcard)
  · by_cases hspoiled : f.Spoiled
    · exact hne (h.spoiled hactive hspoiled).1
    · exact hdropped (h.clean hactive hspoiled).1

theorem exhausted_spec {receipt : Receipt τ} {reason : String} (h : f.Sound cfg)
    (hactive : f.active = true) (hlossless : f.owner.persistenceLossless = false)
    (hreceipt : receipt.signed.revision.value = f.outcomeRevision + 1) :
    Rejects cfg f
      { f.advance with
        persistenceOwner := (f.persistenceOwner.failTerminalCapacity receipt reason).1 } := by
  have hterminal :
      (f.persistenceOwner.failTerminalCapacity receipt reason).1.terminalUnavailableReason ≠
        none := by simp [Owner.failTerminalCapacity, Owner.accept]
  refine ⟨⟨h.recording, ⟨_, rfl⟩, h.pending, h.spool, hreceipt.le, Nat.succ_le_succ h.revision,
    h.persistenceRevision.trans (Nat.le_succ _), h.source, h.advance.failures, h.active, ?_, h.live,
    fun _ hclean => absurd (.inr hterminal) hclean, fun _ _ => ⟨hlossless,
      by simp [Owner.failTerminalCapacity, Owner.accept], .inr hterminal⟩, ?_⟩, .refl _, hactive,
    .inr hterminal, rfl, rfl⟩
  · intro hidle
    exact absurd (hactive.symm.trans hidle) (by simp)
  · intro hloss
    exact absurd (hlossless.symm.trans hloss) (by simp)

/-! ## The experiment and the acquisition -/

theorem acceptSource_next {revision currentRevision : ℤ} {payload : Payload}
    {currentPayload : Option Payload} {domain : String} {next : Result τ σ} (h : f.Sound cfg)
    (hnext : Next cfg f next.1) :
    Next cfg f (f.acceptSource revision payload currentRevision currentPayload domain next).1 := by
  unfold acceptSource raising
  split
  · exact .refl h
  · split
    · exact .refl h
    · split
      · split <;> exact .refl h
      · exact hnext

theorem feedExperiment_next [DecidableEq σ] {revision : ℤ} {payload : Payload}
    {operation : ExperimentOperation}
    {experimentId experimentName phase : Option String} (h : f.Sound cfg) :
    Next cfg f
      (f.feedExperiment cfg revision payload operation experimentId experimentName phase).1 := by
  unfold feedExperiment
  split
  · exact .refl h
  · rename_i outcome hsign
    obtain ⟨hoperation, hidentity, hactive⟩ := RecordingOwner.experiment_ok hsign
    have haside : f.owner.Aside (f.owner.feedExperiment cfg.authority outcome).1 :=
      RecordingOwner.feedExperiment_aside h.recording fun hop => by
        rw [hidentity]
        exact hactive (hoperation.symm.trans hop)
    dsimp only [Result.andThen]
    split
    · exact .aside h haside _ _ _ _
    · exact .aside h haside _ _ _ _

theorem feedAcquisition_next [DecidableEq σ] {revision : ℤ} {payload : Payload}
    {state : AcquisitionLifecycle} {epoch : Option String} (h : f.Sound cfg) :
    Next cfg f (f.feedAcquisition cfg revision payload state epoch).1 := by
  unfold feedAcquisition
  split
  · exact .refl h
  · rename_i receipt _
    have haside : f.owner.Aside (f.owner.feedAcquisition cfg.authority receipt).1 :=
      RecordingOwner.feedAcquisition_aside h.recording
    dsimp only [Result.andThen]
    split
    · exact .aside h haside _ _ _ _
    · exact .aside h haside _ _ _ _

theorem requireActiveExperiment_next {experimentId operation : String} {next : Result τ σ}
    (h : f.Sound cfg) (hnext : Next cfg f next.1) :
    Next cfg f (f.requireActiveExperiment experimentId operation next).1 := by
  unfold requireActiveExperiment raising
  split
  · exact .refl h
  · exact hnext

theorem experimentActive_next [DecidableEq σ] {revision : ℤ} {experimentId experimentName : String}
    {phase : Option String} (h : f.Sound cfg) :
    Next cfg f (f.experimentActive cfg revision experimentId experimentName phase).1 := by
  refine acceptSource_next h ?_
  split
  · exact .refl h
  · exact feedExperiment_next h

theorem acquisitionRunning_next [DecidableEq σ] {sequence : ℤ} {epoch : String} (h : f.Sound cfg) :
    Next cfg f (f.acquisitionRunning cfg sequence epoch).1 := by
  refine acceptSource_next h ?_
  split
  · exact .refl h
  · exact feedAcquisition_next h

theorem init_sound : (init cfg).Sound cfg where
  recording := RecordingOwner.init_sound
  presented := ⟨_, rfl⟩
  pending := rfl
  spool := rfl
  receiptRevision := le_rfl
  revision := le_rfl
  persistenceRevision := le_rfl
  source := le_rfl
  failures := by simp [init, Owner.init]
  active := rfl
  idle := fun _ => ⟨rfl, by simp [init, Owner.init], rfl⟩
  live := by simp [init]
  clean := by simp [init]
  spoiled := by simp [init]
  lossless := by simp [init, RecordingOwner.init]

end Feed

end Recording
end CryoDaq
