import CryoDaq.Recording.LiveInvariant

/-!
# What the live adapters make of the owners

**Runs.**  The owners are fed and the adapters are sampled in any order; feeds may be
refused.

**The receipts.**  A sample of an owner that was fed is the receipt `told` of it, with
the identities and the counters of the owner, if the texts of the experiment fit:
an owner admits a name of 256 bytes and separators in the texts, and a receipt
does not.

**Exactly.**  `adapters_accept_iff`: the adapters accept what the owners present, as
often as they are sampled, exactly when the texts fit.
-/

namespace CryoDaq
namespace Recording

open Channels ObjectGraph Storage Text

variable {σ τ : Type} {p : Platform}

/-- The owners of one engine, with identities that their constructors have checked. -/
structure Site (σ τ : Type) where
  platform : Platform
  feed : FeedAuthority σ
  outcome : OutcomeAuthority τ
  recordingOwnerId : String
  persistenceOwnerId : String
  feed_generation : isGeneration feed.generationId = true
  outcome_generation : isGeneration outcome.generationId = true
  recordingOwnerId_admitted : textFault platform maxIdUtf8Bytes recordingOwnerId = none
  persistenceOwnerId_admitted : textFault platform maxIdUtf8Bytes persistenceOwnerId = none

structure LiveWorld (σ τ : Type) where
  recording : RecordingOwner σ
  persistence : Owner τ
  experimentAdapter : LiveAdapter
  persistenceAdapter : LiveAdapter

inductive LiveCall
  | experiment (revision : ℤ) (operationId : String) (operation : ExperimentOperation)
      (experimentId experimentName phase : Option String)
  | acquisition (revision : ℤ) (state : AcquisitionLifecycle) (epochId : Option String)
  | persistence (revision : ℤ) (state : PersistenceLifecycle) (epochId : Option String)
  | beginRecordingEpoch
  | outcome (signed : Signed)
  | sampleExperiment (cut : CommonCut)
  | samplePersistence (cut : CommonCut)

def LiveCall.samples : LiveCall → Bool
  | .sampleExperiment _ => true
  | .samplePersistence _ => true
  | _ => false

namespace LiveWorld

variable [DecidableEq σ] [DecidableEq τ] (site : Site σ τ)

/-- Owners and adapters that were just constructed. -/
def init : LiveWorld σ τ where
  recording := .init site.feed
  persistence := .init site.outcome site.persistenceOwnerId
  experimentAdapter := .init
  persistenceAdapter := .init

def sampledExperiment (w : LiveWorld σ τ) (cut : CommonCut) :
    Except Refusal ExperimentReceipt × LiveAdapter :=
  Recording.sampleExperiment site.platform w.experimentAdapter cut site.recordingOwnerId
    w.recording.snapshot

def sampledPersistence (w : LiveWorld σ τ) (cut : CommonCut) :
    Except Refusal IntegrityPersistenceReceipt × LiveAdapter :=
  Recording.samplePersistence site.platform w.persistenceAdapter cut w.persistence.snapshot

/-- The effect of one call.  An outcome whose constructor raises is not fed. -/
def after (w : LiveWorld σ τ) : LiveCall → LiveWorld σ τ
  | .experiment revision operationId operation experimentId experimentName phase =>
      match site.feed.experiment (textFault site.platform) revision operationId operation
        experimentId experimentName phase with
      | .error _ => w
      | .ok outcome => { w with recording := (w.recording.feedExperiment site.feed outcome).1 }
  | .acquisition revision state epochId =>
      match site.feed.acquisition (textFault site.platform) revision state epochId with
      | .error _ => w
      | .ok receipt => { w with recording := (w.recording.feedAcquisition site.feed receipt).1 }
  | .persistence revision state epochId =>
      match site.feed.persistence (textFault site.platform) revision state epochId with
      | .error _ => w
      | .ok receipt => { w with recording := (w.recording.feedPersistence site.feed receipt).1 }
  | .beginRecordingEpoch => { w with recording := w.recording.beginRecordingEpoch.1 }
  | .outcome signed =>
      match constructOutcome site.platform site.outcome signed with
      | .error _ => w
      | .ok receipt => { w with persistence := (w.persistence.feed site.outcome receipt).1 }
  | .sampleExperiment cut => { w with experimentAdapter := (w.sampledExperiment site cut).2 }
  | .samplePersistence cut => { w with persistenceAdapter := (w.sampledPersistence site cut).2 }

def run (w : LiveWorld σ τ) (calls : List LiveCall) : LiveWorld σ τ := calls.foldl (after site) w

end LiveWorld

/-! ## What is to be told -/

def benchCut : CommonCut where
  generation := 1
  token := "cut-v1:1:0123456789abcdef0123456789abcdef0123456789abcdef0123456789abcdef"
  observedAt := 0

/-- The receipt that tells the state of the recording owner. -/
def toldExperiment (cut : CommonCut) (o : RecordingOwner σ) (token : String) :
    ExperimentReceipt where
  cut := cut
  revision := o.revision
  token := token
  availability := .available
  unavailableReason := none
  experimentId := o.experimentId
  experimentName := o.experimentName
  phase := o.phase
  recording := if o.sessionId.isSome then .recording else .notRecording
  recordingSessionId := o.sessionId.map SessionId.text

/-- The receipt that tells the state of the persistence owner. -/
def toldPersistence (cut : CommonCut) (o : Owner τ) (token : String) :
    IntegrityPersistenceReceipt where
  cut := cut
  revision := o.revision
  token := token
  availability := .available
  unavailableReason := none
  persistedRevision := some o.materializationRevision
  archiveRevision := o.archiveRevision
  pendingRecords := some o.pendingCount
  droppedRecords := some o.dropped
  storage := o.storage

/-- Every feed of the recording owner was fed, and the experiment is not unavailable. -/
structure Fed (o : RecordingOwner σ) : Prop where
  experiment : 1 ≤ o.experimentRevision
  acquisition : 1 ≤ o.acquisitionRevision
  persistence : 1 ≤ o.persistenceRevision
  operation : o.experimentOperation ≠ .unavailable

instance (o : RecordingOwner σ) : Decidable (Fed o) :=
  decidable_of_iff (1 ≤ o.experimentRevision ∧ 1 ≤ o.acquisitionRevision ∧
      1 ≤ o.persistenceRevision ∧ o.experimentOperation ≠ .unavailable)
    ⟨fun h => ⟨h.1, h.2.1, h.2.2.1, h.2.2.2⟩, fun h => ⟨h.1, h.2, h.3, h.4⟩⟩

/-- The adapters tell the owners: however often they are sampled, for whatever cuts, they
give the receipts of the owners, with one revision and one token. -/
structure AdaptersAccept [DecidableEq σ] [DecidableEq τ] (site : Site σ τ) (w : LiveWorld σ τ) :
    Prop where
  experiment : ∃ token, ∀ samples : List LiveCall, (∀ c ∈ samples, c.samples = true) → ∀ cut,
    ((w.run site samples).sampledExperiment site cut).1 = .ok (toldExperiment cut w.recording token)
  persistence : ∃ token, ∀ samples : List LiveCall, (∀ c ∈ samples, c.samples = true) → ∀ cut,
    ((w.run site samples).sampledPersistence site cut).1 =
      .ok (toldPersistence cut w.persistence token)

/-- The texts of the experiment fit a receipt: the name has at most 128 bytes, and no text
has a line or a paragraph separator. -/
structure Fits (p : Platform) (o : RecordingOwner σ) : Prop where
  name : ∀ s, o.experimentName = some s →
    ∃ n, utf8Length (codePoints s) = some n ∧ n ≤ maxIdUtf8Bytes
  separated : ∀ s, o.experimentId = some s ∨ o.experimentName = some s ∨ o.phase = some s →
    Separated p s

/-! ## Tokens and receipts -/

def isSpelled : Json → Bool
  | .null => true
  | .int _ => true
  | .str _ => true
  | _ => false

theorem dumps_isSome {j : Json} (h : isSpelled j = true) : (Json.dumps false j).isSome = true := by
  cases j <;> first | rfl | cases h

theorem dumpsItems_isSome {items : List Json} (h : items.all isSpelled = true) :
    (Json.dumpsItems false items).isSome = true := by
  induction items with
  | nil => rfl
  | cons j rest ih =>
      rw [List.all_cons, Bool.and_eq_true] at h
      obtain ⟨t, ht⟩ := Option.isSome_iff_exists.mp (dumps_isSome h.1)
      obtain ⟨ts, hts⟩ := Option.isSome_iff_exists.mp (ih h.2)
      simp [Json.dumpsItems, ht, hts]

theorem payloadText_ok {items : List Json} (h : items.all isSpelled = true) :
    ∃ text, payloadText items = .ok text := by
  obtain ⟨ts, hts⟩ := Option.isSome_iff_exists.mp (dumpsItems_isSome h)
  unfold payloadText
  simp [Json.dumps, hts]

theorem isSpelled_jsonText (s : Option String) : isSpelled (jsonText s) = true := by
  cases s <;> rfl

theorem isSpelled_jsonNumber (n : Option ℕ) : isSpelled (jsonNumber n) = true := by
  cases n <;> rfl

theorem recordingPayload_ok (ownerId : String) (s : RecordingSnapshot) :
    ∃ text, payloadText (recordingPayload ownerId s) = .ok text := by
  refine payloadText_ok ?_
  simp only [recordingPayload, List.all_cons, List.all_nil, isSpelled_jsonText, Bool.and_true]
  rfl

theorem persistencePayload_ok (s : OwnerSnapshot) :
    ∃ text, payloadText (persistencePayload s) = .ok text := by
  refine payloadText_ok ?_
  simp only [persistencePayload, List.all_cons, List.all_nil, isSpelled_jsonText,
    isSpelled_jsonNumber, Bool.and_true]
  rfl

theorem authorityToken_tokenOf (revision : ℕ) (domain payload : String) :
    authorityToken revision (tokenOf p revision domain payload) = .ok () := by
  unfold authorityToken tokenOf
  dsimp only
  rw [ensure_eq_ok]
  simp only [String.toList_append, List.drop_left]
  refine ⟨List.prefix_append _ _, ?_, ?_⟩
  · rw [String.length_toList, p.hexdigest_length]
  · rw [List.all_eq_true]
    intro c hc
    simp only [isHex, Bool.or_eq_true, Bool.and_eq_true, decide_eq_true_eq]
    exact p.hexdigest_hex _ c hc

theorem check_available {r : AuthorityReceipt} {domain payload : String}
    (htoken : r.token = tokenOf p r.revision domain payload)
    (hrevision : 1 ≤ r.revision ∧ r.revision ≤ maxNonnegativeInt)
    (havailable : r.availability = .available) (hreason : r.unavailableReason = none) :
    r.check p = .ok () := by
  unfold AuthorityReceipt.check
  simp only [bind_eq_ok, ensure_eq_ok, exists_unit]
  rw [htoken, havailable, hreason]
  exact ⟨hrevision.2, authorityToken_tokenOf _ _ _, fun _ => hrevision.1, by simp, rfl,
    by simp⟩

theorem check_unavailable {cut : CommonCut} {reason : String} (h : isPhrase reason = true) :
    (unavailable p cut reason).check p = .ok () := by
  unfold AuthorityReceipt.check unavailable
  simp only [bind_eq_ok, ensure_eq_ok, exists_unit, optionalText_eq_ok]
  refine ⟨Nat.zero_le _, authorityToken_tokenOf _ _ _, by simp, fun _ => trivial, ?_, by simp⟩
  intro s hs
  rw [← Option.some.inj hs]
  exact ⟨reason, boundedText_eq_ok.mpr ⟨admitted_phrase h, rfl⟩⟩

theorem construct_unavailableExperiment (cut : CommonCut) :
    ExperimentReceipt.construct p (unavailableExperiment p cut) =
      .ok (unavailableExperiment p cut) := by
  unfold ExperimentReceipt.construct
  simp only [bind_eq_ok, ensure_eq_ok, exists_unit, pure_eq_ok]
  exact ⟨check_unavailable (by decide), rfl, rfl, rfl, rfl, rfl, fun _ => rfl, trivial⟩

theorem construct_unavailablePersistence (cut : CommonCut) :
    IntegrityPersistenceReceipt.construct p (unavailablePersistence p cut) =
      .ok (unavailablePersistence p cut) := by
  unfold IntegrityPersistenceReceipt.construct
  simp only [bind_eq_ok, exists_unit, pure_eq_ok]
  exact ⟨check_unavailable (by decide), rfl, rfl, rfl, rfl, rfl, trivial⟩

/-! ## The experiment adapter -/

def ExperimentToken (p : Platform) (ownerId : String) (s : RecordingSnapshot) (token : String) :
    Prop :=
  ∃ payload, payloadText (recordingPayload ownerId s) = .ok payload ∧
    token = tokenOf p s.revision "experiment-recording" payload

/-- The adapter remembers no later revision, and of this one it remembers the token. -/
structure Remembers (token : String) (revision : ℕ) (a : LiveAdapter) : Prop where
  earlier : a.lastRevision ≤ revision
  same : 1 ≤ revision → a.lastRevision = revision → a.lastToken = some token

theorem Remembers.checkToken {token message : String} {revision : ℕ} {a : LiveAdapter}
    (h : Remembers token revision a) (hrevision : 1 ≤ revision) :
    a.checkToken message revision token = .ok () := by
  unfold LiveAdapter.checkToken
  rw [ensure_eq_ok]
  rintro (hlt | ⟨heq, hne⟩)
  · exact absurd hlt (not_lt.mpr h.earlier)
  · exact hne (h.same hrevision heq.symm).symm

theorem experimentToken_unique {ownerId token token' : String} {s : RecordingSnapshot}
    (h : ExperimentToken p ownerId s token) (h' : ExperimentToken p ownerId s token') :
    token = token' := by
  obtain ⟨payload, hpayload, rfl⟩ := h
  obtain ⟨payload', hpayload', rfl⟩ := h'
  rw [Except.ok.inj (hpayload.symm.trans hpayload')]

section Experiment

variable {g ownerId : String} {o : RecordingOwner σ} {a : LiveAdapter}

theorem RecordingOwner.Presents.named (h : o.Presents p g) (hg : isGeneration g = true)
    {s : SessionId} (hs : o.sessionId = some s) : Named s := by
  obtain ⟨hgeneration, hpositive, hbounded, -⟩ := h.kept.session s hs
  exact ⟨hgeneration ▸ hg, hpositive, hbounded⟩

theorem construct_told_iff (h : o.Presents p g) (hg : isGeneration g = true)
    {cut : CommonCut} {token payload : String}
    (htoken : token = tokenOf p o.revision "experiment-recording" payload)
    (hrevision : 1 ≤ o.revision) {r : ExperimentReceipt} :
    ExperimentReceipt.construct p (toldExperiment cut o token) = .ok r ↔
      Fits p o ∧ toldExperiment cut o token = r := by
  have hcheck : (toldExperiment cut o token).toAuthorityReceipt.check p = .ok () :=
    check_available htoken ⟨hrevision, h.kept.revision⟩ rfl rfl
  have hdomain : (toldExperiment cut o token).checkDomain = .ok () := by
    unfold ExperimentReceipt.checkDomain
    have havailable : (toldExperiment cut o token).availability ≠ .unavailable := by
      intro hnot
      cases hnot
    rw [if_neg havailable, ensure_eq_ok]
    intro hrecording
    cases hsession : o.sessionId with
    | none => simp [toldExperiment, hsession] at hrecording
    | some s =>
        obtain ⟨-, -, -, hactive, -, -⟩ := h.kept.session s hsession
        exact ⟨(h.kept.active hactive).1, by simp [toldExperiment, hsession]⟩
  have hsession : (toldExperiment cut o token).recording ≠ .recording →
      (toldExperiment cut o token).recordingSessionId = none := by
    intro hrecording
    cases hsession : o.sessionId with
    | none => simp [toldExperiment, hsession]
    | some s => simp [toldExperiment, hsession] at hrecording
  have hsessionText : optionalText (boundedText p "recording_session_id" maxIdUtf8Bytes)
      (toldExperiment cut o token).recordingSessionId = .ok () := by
    rw [optionalText_eq_ok]
    intro text htext
    obtain ⟨s, hs, rfl⟩ := Option.map_eq_some_iff.mp htext
    exact ⟨_, boundedText_eq_ok.mpr ⟨(h.named hg hs).admitted, rfl⟩⟩
  unfold ExperimentReceipt.construct
  simp only [bind_eq_ok, ensure_eq_ok, exists_unit, pure_eq_ok, hcheck, hdomain, hsessionText,
    optionalText_eq_ok, boundedText_eq_ok, true_and]
  constructor
  · rintro ⟨hid, hname, hphase, -, rfl⟩
    refine ⟨⟨?_, ?_⟩, rfl⟩
    · intro s hs
      obtain ⟨_, ⟨hadmitted, -⟩, -⟩ := hname s hs
      exact hadmitted.encoded
    · rintro s (hs | hs | hs)
      · obtain ⟨_, ⟨-, hseparated⟩, -⟩ := hid s hs
        exact hseparated
      · obtain ⟨_, ⟨-, hseparated⟩, -⟩ := hname s hs
        exact hseparated
      · obtain ⟨_, ⟨-, hseparated⟩, -⟩ := hphase s hs
        exact hseparated
  · rintro ⟨hfits, rfl⟩
    refine ⟨?_, ?_, ?_, hsession, rfl⟩
    · intro s hs
      exact ⟨s, ⟨h.kept.experimentId s hs, hfits.separated s (Or.inl hs)⟩, rfl⟩
    · intro s hs
      exact ⟨s, ⟨{ h.kept.experimentName s hs with encoded := hfits.name s hs },
        hfits.separated s (Or.inr (Or.inl hs))⟩, rfl⟩
    · intro s hs
      exact ⟨s, ⟨h.kept.phase s hs, hfits.separated s (Or.inr (Or.inr hs))⟩, rfl⟩

theorem exactRevision_eq_ok {minimum value result : ℕ} :
    exactRevision minimum value = .ok result ↔
      (minimum ≤ value ∧ value ≤ maxNonnegativeInt) ∧ value = result := by
  simp only [exactRevision, bind_eq_ok, ensure_eq_ok, exists_unit, pure_eq_ok]

theorem generationId_ok {value : String} (h : isGeneration value = true) :
    generationId p value = .ok value := by
  have hform := h
  simp only [isGeneration, Bool.and_eq_true, decide_eq_true_eq] at hform
  have hlimit : maxIdUtf8Bytes = 128 := rfl
  have hadmitted : Admitted p maxIdUtf8Bytes value := by
    refine (admitted_graphic (codePoints_hex (List.all_eq_true.mp hform.2)) ?_ (by omega)).1
    intro hempty
    rw [hempty] at hform
    exact absurd hform.1 (by decide)
  simp only [generationId, bind_eq_ok, exactText_eq_ok, ensure_eq_ok, exists_unit, pure_eq_ok]
  exact ⟨value, ⟨hadmitted, rfl⟩, h, rfl⟩

theorem optionalText_admitted {limit : ℕ} {value : Option String}
    (h : ∀ s, value = some s → Admitted p limit s) :
    optionalText (exactText p limit) value = .ok () := by
  rw [optionalText_eq_ok]
  exact fun s hs => ⟨s, exactText_eq_ok.mpr ⟨h s hs, rfl⟩⟩

theorem checkRecording_ok (h : o.Presents p g) (hg : isGeneration g = true) (reason : String) :
    checkRecording p g (o.makeSnapshot reason) = .ok () := by
  unfold checkRecording RecordingOwner.makeSnapshot
  cases hsession : o.sessionId with
  | none => rfl
  | some s =>
      obtain ⟨hgeneration, -, -, hactive, hrunning, hlossless⟩ := h.kept.session s hsession
      have hnamed := h.named hg hsession
      simp only [bind_eq_ok, ensure_eq_ok, exists_unit, exactText_eq_ok]
      refine ⟨⟨hactive, h.kept.running hrunning, h.kept.lossless hlossless⟩, s.text,
        ⟨hnamed.admitted.1, rfl⟩, ?_⟩
      rw [← hgeneration]
      exact hnamed.checkSession

theorem checkIdentity_ok (h : o.Presents p g) (hfits : Fits p o) (reason : String) :
    checkIdentity p (o.makeSnapshot reason) = .ok () := by
  unfold checkIdentity RecordingOwner.makeSnapshot
  by_cases hactive : o.experimentOperation = .active
  · rw [if_pos hactive]
    obtain ⟨hid, hname⟩ := h.kept.active hactive
    obtain ⟨id, hid⟩ := Option.isSome_iff_exists.mp hid
    obtain ⟨name, hname⟩ := Option.isSome_iff_exists.mp hname
    simp only [bind_eq_ok, requiredText_eq_ok, exactText_eq_ok]
    exact ⟨id, ⟨id, hid, h.kept.experimentId id hid, rfl⟩, name,
      ⟨name, hname, { h.kept.experimentName name hname with encoded := hfits.name name hname },
        rfl⟩, optionalText_admitted h.kept.phase⟩
  · rw [if_neg hactive, ensure_eq_ok]
    exact h.kept.inactive hactive

/-- What the adapter gives is the receipt of the owner, if it was fed and its texts fit. -/
theorem projectExperiment_eq_ok (h : o.Presents p g) (hg : isGeneration g = true)
    (howner : Admitted p maxIdUtf8Bytes ownerId) {token : String}
    (htoken : ExperimentToken p ownerId o.snapshot token) (ha : Remembers token o.revision a)
    {cut : CommonCut} {r : ExperimentReceipt} :
    projectExperiment p a cut ownerId o.snapshot = .ok r ↔
      Fed o ∧ Fits p o ∧ toldExperiment cut o token = r := by
  obtain ⟨reason, hreason, hsnapshot⟩ := h.snapshot
  obtain ⟨payload, hpayload, htoken⟩ := htoken
  rw [hsnapshot] at hpayload htoken ⊢
  have htoken' : token = tokenOf p o.revision "experiment-recording" payload := htoken
  have hproject : ∀ {r : ExperimentReceipt},
      projectExperiment p a cut ownerId (o.makeSnapshot reason) = .ok r ↔
        1 ≤ o.revision ∧ 1 ≤ o.experimentRevision ∧ 1 ≤ o.acquisitionRevision ∧
          1 ≤ o.persistenceRevision ∧ checkIdentity p (o.makeSnapshot reason) = .ok () ∧
          o.experimentOperation ≠ .unavailable ∧
          a.checkToken "recording revision regressed or equivocated" o.revision token = .ok () ∧
          ExperimentReceipt.construct p (toldExperiment cut o token) = .ok r := by
    intro r
    unfold projectExperiment checkExperiment
    simp only [bind_eq_ok, exactRevision_eq_ok, exactText_eq_ok, ensure_eq_ok, exists_unit]
    constructor
    · rintro ⟨_, ⟨⟨hrevision, -⟩, rfl⟩, _, ⟨⟨hexperiment, -⟩, -⟩, _, ⟨⟨hacquisition, -⟩, -⟩, _,
        ⟨⟨hpersistence, -⟩, -⟩, _, -, _, -, -, -, _, -, ⟨hidentity, hoperation⟩, -, payload',
        hpayload', hcheck, hconstruct⟩
      rw [hpayload] at hpayload'
      cases hpayload'
      rw [htoken']
      exact ⟨hrevision, hexperiment, hacquisition, hpersistence, hidentity, hoperation, hcheck,
        hconstruct⟩
    · rintro ⟨hrevision, hexperiment, hacquisition, hpersistence, hidentity, hoperation, hcheck,
        hconstruct⟩
      rw [htoken'] at hcheck hconstruct
      have hgeneration : generationId p (o.makeSnapshot reason).generationId = .ok g := by
        have hsame : (o.makeSnapshot reason).generationId = g := h.kept.generation
        rw [hsame]
        exact generationId_ok hg
      exact ⟨_, ⟨⟨hrevision, h.kept.revision⟩, rfl⟩, _,
        ⟨⟨hexperiment, h.kept.experimentRevision⟩, rfl⟩, _,
        ⟨⟨hacquisition, h.kept.acquisitionRevision⟩, rfl⟩, _,
        ⟨⟨hpersistence, h.kept.persistenceRevision⟩, rfl⟩, _, ⟨howner, rfl⟩, g,
        hgeneration, optionalText_admitted h.kept.acquisitionEpochId,
        optionalText_admitted h.kept.persistenceEpochId, _, ⟨hreason, rfl⟩,
        ⟨hidentity, hoperation⟩, checkRecording_ok h hg reason, payload, hpayload, hcheck,
        hconstruct⟩
  rw [hproject]
  constructor
  · rintro ⟨hrevision, hexperiment, hacquisition, hpersistence, -, hoperation, -, hconstruct⟩
    obtain ⟨hfits, hr⟩ := (construct_told_iff h hg htoken' hrevision).mp hconstruct
    exact ⟨⟨hexperiment, hacquisition, hpersistence, hoperation⟩, hfits, hr⟩
  · rintro ⟨⟨hexperiment, hacquisition, hpersistence, hoperation⟩, hfits, hr⟩
    have hrevision := h.kept.fed hexperiment
    exact ⟨hrevision, hexperiment, hacquisition, hpersistence, checkIdentity_ok h hfits reason,
      hoperation, ha.checkToken hrevision,
      (construct_told_iff h hg htoken' hrevision).mpr ⟨hfits, hr⟩⟩

end Experiment

/-! ## The persistence adapter -/

def PersistenceToken (p : Platform) (s : OwnerSnapshot) (token : String) : Prop :=
  ∃ payload, payloadText (persistencePayload s) = .ok payload ∧
    token = tokenOf p s.revision "integrity-persistence" payload

theorem persistenceToken_unique {token token' : String} {s : OwnerSnapshot}
    (h : PersistenceToken p s token) (h' : PersistenceToken p s token') : token = token' := by
  obtain ⟨payload, hpayload, rfl⟩ := h
  obtain ⟨payload', hpayload', rfl⟩ := h'
  rw [Except.ok.inj (hpayload.symm.trans hpayload')]

section Persistence

variable {g ownerId : String} {o : Owner τ} {a : LiveAdapter}

theorem construct_toldPersistence (h : Presents p ownerId g o) {cut : CommonCut}
    {token payload : String}
    (htoken : token = tokenOf p o.revision "integrity-persistence" payload)
    (hrevision : 1 ≤ o.revision) :
    IntegrityPersistenceReceipt.construct p (toldPersistence cut o token) =
      .ok (toldPersistence cut o token) := by
  have hcheck : (toldPersistence cut o token).toAuthorityReceipt.check p = .ok () :=
    check_available htoken ⟨hrevision, le_trans h.revision_le h.receiptRevision⟩ rfl rfl
  have hcounter : ∀ {field : String} {n : ℕ}, n ≤ maxNonnegativeInt →
      receiptCounter field (some n) = .ok () := by
    intro field n hn
    rw [receiptCounter, ensure_eq_ok, Option.all_some, decide_eq_true_eq]
    exact hn
  have harchive : receiptCounter "archive_revision" o.archiveRevision = .ok () := by
    cases harchive : o.archiveRevision with
    | none => rfl
    | some n => exact hcounter (h.counters.archive n harchive).2
  have hdomain : (toldPersistence cut o token).checkDomain = .ok () := by
    unfold IntegrityPersistenceReceipt.checkDomain
    have havailable : (toldPersistence cut o token).availability ≠ .unavailable := by
      intro hnot
      cases hnot
    rw [if_neg havailable, ensure_eq_ok]
    exact ⟨rfl, rfl, rfl⟩
  unfold IntegrityPersistenceReceipt.construct
  simp only [bind_eq_ok, exists_unit, pure_eq_ok]
  exact ⟨hcheck, hcounter h.counters.materialization, harchive, hcounter h.counters.pending,
    hcounter h.counters.dropped, hdomain, trivial⟩

theorem projectPersistence_eq_ok (h : Presents p ownerId g o) (hg : isGeneration g = true)
    (howner : Admitted p maxIdUtf8Bytes ownerId) {token : String}
    (htoken : PersistenceToken p o.snapshot token) (ha : Remembers token o.revision a)
    {cut : CommonCut} {r : IntegrityPersistenceReceipt} :
    projectPersistence p a cut o.snapshot = .ok r ↔
      1 ≤ o.receiptRevision ∧ toldPersistence cut o token = r := by
  obtain ⟨reason, hreason, hsnapshot⟩ := h.snapshot
  obtain ⟨payload, hpayload, htoken⟩ := htoken
  rw [hsnapshot] at hpayload htoken ⊢
  have htoken' : token = tokenOf p o.revision "integrity-persistence" payload := htoken
  have hgeneration : generationId p (o.makeSnapshot reason).generationId = .ok g := by
    have hsame : (o.makeSnapshot reason).generationId = g := h.generation
    rw [hsame]
    exact generationId_ok hg
  have howner' : Admitted p maxIdUtf8Bytes (o.makeSnapshot reason).ownerId := by
    have hsame : (o.makeSnapshot reason).ownerId = ownerId := h.ownerId
    rw [hsame]
    exact howner
  unfold projectPersistence
  simp only [bind_eq_ok, exactRevision_eq_ok, exactText_eq_ok, requiredText_eq_ok, ensure_eq_ok,
    exists_unit]
  constructor
  · rintro ⟨_, ⟨⟨hrevision, -⟩, rfl⟩, _, ⟨⟨hfed, -⟩, rfl⟩, -, _, -, _, -, _, -, _, -, _,
      ⟨-, rfl⟩, -, _, ⟨-, rfl⟩, _, ⟨-, rfl⟩, payload', hpayload', -, hconstruct⟩
    rw [hpayload] at hpayload'
    cases hpayload'
    have hr : IntegrityPersistenceReceipt.construct p (toldPersistence cut o token) = .ok r := by
      rw [htoken']
      exact hconstruct
    rw [construct_toldPersistence h htoken' hrevision] at hr
    exact ⟨hfed, Except.ok.inj hr⟩
  · rintro ⟨hfed, rfl⟩
    have hrevision := h.fed hfed
    have hbounded := le_trans h.revision_le h.receiptRevision
    obtain ⟨epoch, hepoch⟩ := Option.isSome_iff_exists.mp (h.started hrevision)
    have hconstruct : IntegrityPersistenceReceipt.construct p (toldPersistence cut o token) =
        .ok (toldPersistence cut o token) := construct_toldPersistence h htoken' hrevision
    have hcheck : a.checkToken "persistence revision regressed or equivocated" o.revision token =
        .ok () := ha.checkToken hrevision
    rw [htoken'] at hconstruct hcheck ⊢
    have harchive : (o.makeSnapshot reason).archiveRevision.all
        (fun n => 1 ≤ n && n ≤ maxNonnegativeInt) = true := by
      show o.archiveRevision.all (fun n => 1 ≤ n && n ≤ maxNonnegativeInt) = true
      cases harchive : o.archiveRevision with
      | none => rfl
      | some n =>
          obtain ⟨hpositive, hle⟩ := h.counters.archive n harchive
          simp [hpositive, hle]
    exact ⟨_, ⟨⟨hrevision, hbounded⟩, rfl⟩, _, ⟨⟨hfed, h.receiptRevision⟩, rfl⟩, h.revision_le,
      _, ⟨howner', rfl⟩, g, hgeneration, epoch,
      ⟨epoch, hepoch, h.counters.epoch epoch hepoch, rfl⟩, _, ⟨hreason, rfl⟩, _,
      ⟨⟨Nat.zero_le _, h.counters.materialization⟩, rfl⟩, harchive, _,
      ⟨⟨Nat.zero_le _, h.counters.pending⟩, rfl⟩, _, ⟨⟨Nat.zero_le _, h.counters.dropped⟩, rfl⟩,
      payload, hpayload, hcheck, hconstruct⟩

end Persistence

/-! ## Runs of owners and adapters -/

theorem RecordingOwner.Presents.snapshot_revision {g : String} {o : RecordingOwner σ}
    (h : o.Presents p g) : o.snapshot.revision = o.revision := by
  obtain ⟨_, -, hsnapshot⟩ := h.snapshot
  rw [hsnapshot]
  rfl

theorem Presents.snapshot_revision {ownerId g : String} {o : Owner τ}
    (h : Presents p ownerId g o) : o.snapshot.revision = o.revision := by
  obtain ⟨_, -, hsnapshot⟩ := h.snapshot
  rw [hsnapshot]
  rfl

section Runs

variable {site : Site σ τ} {w : LiveWorld σ τ}

/-- What holds of the owners and the adapters. -/
structure LiveWorld.Sound (site : Site σ τ) (w : LiveWorld σ τ) : Prop where
  recording : w.recording.Presents site.platform site.feed.generationId
  persistence : Presents site.platform site.persistenceOwnerId site.outcome.generationId
    w.persistence
  experimentAdapter : ∀ token,
    ExperimentToken site.platform site.recordingOwnerId w.recording.snapshot token →
      Remembers token w.recording.revision w.experimentAdapter
  persistenceAdapter : ∀ token, PersistenceToken site.platform w.persistence.snapshot token →
    Remembers token w.persistence.revision w.persistenceAdapter

variable (site) in
theorem LiveWorld.init_sound : LiveWorld.Sound site (.init site) := by
  refine ⟨RecordingOwner.init_presents, init_presents, fun token _ => ⟨Nat.zero_le _, ?_⟩,
    fun token _ => ⟨Nat.zero_le _, ?_⟩⟩
  · intro hpositive
    exact absurd hpositive (Nat.not_succ_le_zero 0)
  · intro hpositive
    exact absurd hpositive (Nat.not_succ_le_zero 0)

theorem LiveWorld.Sound.feeds (h : w.Sound site) {o' : RecordingOwner σ}
    (ho : RecordingOwner.Follows site.platform site.feed.generationId w.recording o') :
    LiveWorld.Sound site { w with recording := o' } := by
  refine ⟨ho.presents, h.persistence, fun token htoken => ?_, h.persistenceAdapter⟩
  have hold := h.recording.snapshot_revision
  have hnew := ho.presents.snapshot_revision
  rcases ho.succeeds with hsame | hgrows
  · rw [hsame] at htoken hnew
    have hremembers := h.experimentAdapter token htoken
    show Remembers token o'.revision w.experimentAdapter
    rwa [← hnew, hold]
  · obtain ⟨payload, hpayload⟩ := recordingPayload_ok site.recordingOwnerId w.recording.snapshot
    have hearlier := (h.experimentAdapter _ ⟨payload, hpayload, rfl⟩).earlier
    exact ⟨by show w.experimentAdapter.lastRevision ≤ o'.revision; omega,
      fun _ heq => absurd heq (by show w.experimentAdapter.lastRevision ≠ o'.revision; omega)⟩

theorem LiveWorld.Sound.receives (h : w.Sound site) {o' : Owner τ}
    (ho : Follows site.platform site.persistenceOwnerId site.outcome.generationId
      w.persistence o') : LiveWorld.Sound site { w with persistence := o' } := by
  refine ⟨h.recording, ho.presents, h.experimentAdapter, fun token htoken => ?_⟩
  have hold := h.persistence.snapshot_revision
  have hnew := ho.presents.snapshot_revision
  rcases ho.succeeds with hsame | hgrows
  · rw [hsame] at htoken hnew
    have hremembers := h.persistenceAdapter token htoken
    show Remembers token o'.revision w.persistenceAdapter
    rwa [← hnew, hold]
  · obtain ⟨payload, hpayload⟩ := persistencePayload_ok w.persistence.snapshot
    have hearlier := (h.persistenceAdapter _ ⟨payload, hpayload, rfl⟩).earlier
    exact ⟨by show w.persistenceAdapter.lastRevision ≤ o'.revision; omega,
      fun _ heq => absurd heq (by show w.persistenceAdapter.lastRevision ≠ o'.revision; omega)⟩

theorem LiveWorld.Sound.sampledExperiment_cases (h : w.Sound site) (cut : CommonCut) :
    ∃ token, ExperimentToken site.platform site.recordingOwnerId w.recording.snapshot token ∧
      ((Fed w.recording ∧ Fits site.platform w.recording) ∧
          w.sampledExperiment site cut =
            (.ok (toldExperiment cut w.recording token), ⟨w.recording.revision, some token⟩) ∨
        ¬ (Fed w.recording ∧ Fits site.platform w.recording) ∧
          w.sampledExperiment site cut =
            (.ok (unavailableExperiment site.platform cut), w.experimentAdapter)) := by
  obtain ⟨payload, hpayload⟩ := recordingPayload_ok site.recordingOwnerId w.recording.snapshot
  refine ⟨_, ⟨payload, hpayload, rfl⟩, ?_⟩
  have hproject : ∀ {r : ExperimentReceipt},
      projectExperiment site.platform w.experimentAdapter cut site.recordingOwnerId
          w.recording.snapshot = .ok r ↔ _ :=
    projectExperiment_eq_ok h.recording site.feed_generation
      (textFault_eq_none.mp site.recordingOwnerId_admitted) ⟨payload, hpayload, rfl⟩
      (h.experimentAdapter _ ⟨payload, hpayload, rfl⟩)
  unfold LiveWorld.sampledExperiment sampleExperiment
  split
  · rename_i e herror
    refine Or.inr ⟨fun hfits => ?_, ?_⟩
    · have hok := hproject.mpr ⟨hfits.1, hfits.2, rfl⟩
      rw [herror] at hok
      cases hok
    · rw [construct_unavailableExperiment]
  · rename_i r hok
    obtain ⟨hfed, hfits, rfl⟩ := hproject.mp hok
    exact Or.inl ⟨⟨hfed, hfits⟩, rfl⟩

theorem LiveWorld.Sound.sampledPersistence_cases (h : w.Sound site) (cut : CommonCut) :
    ∃ token, PersistenceToken site.platform w.persistence.snapshot token ∧
      (1 ≤ w.persistence.receiptRevision ∧
          w.sampledPersistence site cut =
            (.ok (toldPersistence cut w.persistence token),
              ⟨w.persistence.revision, some token⟩) ∨
        ¬ 1 ≤ w.persistence.receiptRevision ∧
          w.sampledPersistence site cut =
            (.ok (unavailablePersistence site.platform cut), w.persistenceAdapter)) := by
  obtain ⟨payload, hpayload⟩ := persistencePayload_ok w.persistence.snapshot
  refine ⟨_, ⟨payload, hpayload, rfl⟩, ?_⟩
  have hproject : ∀ {r : IntegrityPersistenceReceipt},
      projectPersistence site.platform w.persistenceAdapter cut w.persistence.snapshot = .ok r ↔
        _ :=
    projectPersistence_eq_ok h.persistence site.outcome_generation
      (textFault_eq_none.mp site.persistenceOwnerId_admitted) ⟨payload, hpayload, rfl⟩
      (h.persistenceAdapter _ ⟨payload, hpayload, rfl⟩)
  unfold LiveWorld.sampledPersistence samplePersistence
  split
  · rename_i e herror
    refine Or.inr ⟨fun hfed => ?_, ?_⟩
    · have hok := hproject.mpr ⟨hfed, rfl⟩
      rw [herror] at hok
      cases hok
    · rw [construct_unavailablePersistence]
  · rename_i r hok
    obtain ⟨hfed, rfl⟩ := hproject.mp hok
    exact Or.inl ⟨hfed, rfl⟩

variable [DecidableEq σ] [DecidableEq τ]

theorem LiveWorld.Sound.after (h : w.Sound site) (call : LiveCall) :
    (w.after site call).Sound site := by
  cases call with
  | experiment revision operationId operation experimentId experimentName phase =>
      unfold LiveWorld.after
      dsimp only
      split
      · exact h
      · rename_i outcome hok
        exact h.feeds (RecordingOwner.feedExperiment_follows h.recording
          (RecordingOwner.worded_of_experiment hok))
  | acquisition revision state epochId =>
      unfold LiveWorld.after
      dsimp only
      split
      · exact h
      · rename_i receipt hok
        exact h.feeds (RecordingOwner.feedAcquisition_follows h.recording hok)
  | persistence revision state epochId =>
      unfold LiveWorld.after
      dsimp only
      split
      · exact h
      · rename_i receipt hok
        exact h.feeds (RecordingOwner.feedPersistence_follows h.recording hok)
  | beginRecordingEpoch => exact h.feeds (RecordingOwner.begin_follows h.recording)
  | outcome signed =>
      unfold LiveWorld.after
      dsimp only
      split
      · exact h
      · rename_i receipt hok
        obtain ⟨hworded, rfl⟩ := worded_of_construct hok
        exact h.receives (feed_follows h.persistence hworded)
  | sampleExperiment cut =>
      refine ⟨h.recording, h.persistence, fun token htoken => ?_, h.persistenceAdapter⟩
      obtain ⟨sampled, hsampled, ⟨-, heq⟩ | ⟨-, heq⟩⟩ := h.sampledExperiment_cases cut
      · show Remembers token w.recording.revision (w.sampledExperiment site cut).2
        rw [heq, experimentToken_unique htoken hsampled]
        exact ⟨le_rfl, fun _ _ => rfl⟩
      · show Remembers token w.recording.revision (w.sampledExperiment site cut).2
        rw [heq]
        exact h.experimentAdapter token htoken
  | samplePersistence cut =>
      refine ⟨h.recording, h.persistence, h.experimentAdapter, fun token htoken => ?_⟩
      obtain ⟨sampled, hsampled, ⟨-, heq⟩ | ⟨-, heq⟩⟩ := h.sampledPersistence_cases cut
      · show Remembers token w.persistence.revision (w.sampledPersistence site cut).2
        rw [heq, persistenceToken_unique htoken hsampled]
        exact ⟨le_rfl, fun _ _ => rfl⟩
      · show Remembers token w.persistence.revision (w.sampledPersistence site cut).2
        rw [heq]
        exact h.persistenceAdapter token htoken

theorem LiveWorld.Sound.run (h : w.Sound site) (calls : List LiveCall) :
    (w.run site calls).Sound site := by
  induction calls generalizing w with
  | nil => exact h
  | cons call rest ih => exact ih (h.after call)

variable (site w) in
theorem LiveWorld.owners_of_samples {samples : List LiveCall}
    (h : ∀ c ∈ samples, c.samples = true) :
    (w.run site samples).recording = w.recording ∧
      (w.run site samples).persistence = w.persistence := by
  induction samples generalizing w with
  | nil => exact ⟨rfl, rfl⟩
  | cons call rest ih =>
      have hrest := ih (w.after site call) fun c hc => h c (List.mem_cons_of_mem _ hc)
      have hcall := h call List.mem_cons_self
      cases call with
      | sampleExperiment cut => exact hrest
      | samplePersistence cut => exact hrest
      | experiment => cases hcall
      | acquisition => cases hcall
      | persistence => cases hcall
      | beginRecordingEpoch => cases hcall
      | outcome => cases hcall

end Runs

/-- After any run that has fed the owners, the adapters accept what the owners present
exactly when the texts of the experiment fit. -/
theorem adapters_accept_iff [DecidableEq σ] [DecidableEq τ] (site : Site σ τ)
    (calls : List LiveCall)
    (hrecording : Fed ((LiveWorld.init site).run site calls).recording)
    (hpersistence : 1 ≤ ((LiveWorld.init site).run site calls).persistence.receiptRevision) :
    AdaptersAccept site ((LiveWorld.init site).run site calls) ↔
      Fits site.platform ((LiveWorld.init site).run site calls).recording := by
  have hsound := (LiveWorld.init_sound site).run calls
  generalize (LiveWorld.init site).run site calls = w at hrecording hpersistence hsound ⊢
  constructor
  · intro haccept
    obtain ⟨token, htold⟩ := haccept.experiment
    obtain ⟨_, -, ⟨⟨-, hfits⟩, -⟩ | ⟨-, heq⟩⟩ := hsound.sampledExperiment_cases benchCut
    · exact hfits
    · have hsampled := htold [] (by simp) benchCut
      rw [show w.run site [] = w from rfl, heq] at hsampled
      have havailability := congrArg (fun r => r.availability) (Except.ok.inj hsampled)
      cases havailability
  · intro hfits
    obtain ⟨payload, hpayload⟩ := recordingPayload_ok site.recordingOwnerId w.recording.snapshot
    obtain ⟨payload', hpayload'⟩ := persistencePayload_ok w.persistence.snapshot
    refine
      ⟨⟨tokenOf site.platform w.recording.snapshot.revision "experiment-recording" payload,
          fun samples hsamples cut => ?_⟩,
        ⟨tokenOf site.platform w.persistence.snapshot.revision "integrity-persistence" payload',
          fun samples hsamples cut => ?_⟩⟩
    · obtain ⟨howner, -⟩ := LiveWorld.owners_of_samples site w hsamples
      obtain ⟨token, htoken, ⟨-, heq⟩ | ⟨hnot, -⟩⟩ :=
        (hsound.run samples).sampledExperiment_cases cut
      · rw [howner] at htoken heq
        rw [heq, experimentToken_unique htoken ⟨payload, hpayload, rfl⟩]
      · rw [howner] at hnot
        exact absurd ⟨hrecording, hfits⟩ hnot
    · obtain ⟨-, howner⟩ := LiveWorld.owners_of_samples site w hsamples
      obtain ⟨token, htoken, ⟨-, heq⟩ | ⟨hnot, -⟩⟩ :=
        (hsound.run samples).sampledPersistence_cases cut
      · rw [howner] at htoken heq
        rw [heq, persistenceToken_unique htoken ⟨payload', hpayload', rfl⟩]
      · rw [howner] at hnot
        exact absurd hpersistence hnot

/-! ### A long name -/

/-- Two owners with tokens that are not looked into. -/
def benchSite : Site Unit Unit where
  platform := default
  feed :=
    { generationId := "0123456789abcdef0123456789abcdef"
      experimentToken := fun _ => ()
      acquisitionToken := fun _ => ()
      persistenceToken := fun _ => () }
  outcome :=
    { issuerId := "persistence-issuer"
      generationId := "fedcba9876543210fedcba9876543210"
      token := fun _ => () }
  recordingOwnerId := "recording-owner"
  persistenceOwnerId := "persistence-owner"
  feed_generation := by decide
  outcome_generation := by decide
  recordingOwnerId_admitted := by decide
  persistenceOwnerId_admitted := by decide

/-- An experiment with a name of `n` letters that is being recorded. -/
def benchCalls (n : ℕ) : List LiveCall :=
  [.experiment 1 "start-1" .active (some "run-1")
      (some (String.ofList (List.replicate n 'a'))) (some "cooldown"),
    .acquisition 1 .running (some "epoch-1"), .persistence 1 .lossless (some "epoch-1"),
    .beginRecordingEpoch,
    .outcome ⟨⟨1, by decide, by decide⟩, "epoch-1", .lifecycle .started⟩]

theorem benchRun :
    (Fed ((LiveWorld.init benchSite).run benchSite (benchCalls 8)).recording ∧
      1 ≤ ((LiveWorld.init benchSite).run benchSite (benchCalls 8)).persistence.receiptRevision) ∧
    ((LiveWorld.init benchSite).run benchSite (benchCalls 8)).recording.experimentId =
      some "run-1" ∧
    ((LiveWorld.init benchSite).run benchSite (benchCalls 8)).recording.experimentName =
      some "aaaaaaaa" ∧
    ((LiveWorld.init benchSite).run benchSite (benchCalls 8)).recording.phase =
      some "cooldown" := by
  decide +kernel

theorem benchFits :
    Fits default ((LiveWorld.init benchSite).run benchSite (benchCalls 8)).recording := by
  obtain ⟨-, hid, hname, hphase⟩ := benchRun
  have hphrase : ∀ s, isPhrase s = true → Separated default s :=
    fun s hs => (admitted_phrase hs).2
  constructor
  · intro s hs
    rw [hname] at hs
    rw [← Option.some.inj hs]
    exact ⟨8, by decide, by decide⟩
  · rintro s (hs | hs | hs)
    · rw [hid] at hs
      exact Option.some.inj hs ▸ hphrase "run-1" (by decide)
    · rw [hname] at hs
      exact Option.some.inj hs ▸ hphrase "aaaaaaaa" (by decide)
    · rw [hphase] at hs
      exact Option.some.inj hs ▸ hphrase "cooldown" (by decide)

/-- A short name is told. -/
theorem adapters_accept_short :
    AdaptersAccept benchSite ((LiveWorld.init benchSite).run benchSite (benchCalls 8)) :=
  (adapters_accept_iff benchSite (benchCalls 8) benchRun.1.1 benchRun.1.2).mpr benchFits

theorem benchRun_long :
    (Fed ((LiveWorld.init benchSite).run benchSite (benchCalls 129)).recording ∧
      1 ≤ ((LiveWorld.init benchSite).run benchSite (benchCalls 129)).persistence.receiptRevision) ∧
    ((((LiveWorld.init benchSite).run benchSite (benchCalls 129)).run benchSite
      []).sampledExperiment benchSite benchCut).1.map (fun r => r.availability) =
        .ok .unavailable := by
  decide +kernel

/-- A name of 129 letters is admitted by the owner and refused by the adapter. -/
theorem adapters_refuse_long_name :
    Fed ((LiveWorld.init benchSite).run benchSite (benchCalls 129)).recording ∧
      1 ≤ ((LiveWorld.init benchSite).run benchSite (benchCalls 129)).persistence.receiptRevision ∧
      ¬ AdaptersAccept benchSite ((LiveWorld.init benchSite).run benchSite (benchCalls 129)) := by
  obtain ⟨⟨hrecording, hpersistence⟩, hunavailable⟩ := benchRun_long
  refine ⟨hrecording, hpersistence, fun haccept => ?_⟩
  obtain ⟨token, htold⟩ := haccept.experiment
  rw [htold [] (by simp) benchCut] at hunavailable
  cases hunavailable

end Recording
end CryoDaq
