import CryoDaq.Storage.PersistenceOwner

/-!
# What the owner presents

The owner of persistence truth is compared with the receipts that it has
accepted, the latest first.

**The ledger.**  `unsettled`, `failing`, `lostRecords` and `lostSince` read off
the accepted receipts of the current epoch what is pending, which failures are
not resolved and what is lost.

**Acceptance.**  `Accepts` says what a receipt that is accepted changes, and
`feed_cases` that a call accepts its receipt, refuses it and changes nothing, has
seen it before, or exhausts a capacity.
-/

namespace CryoDaq
namespace Storage

variable {τ : Type}

namespace Signed

/-- Whether a receipt starts an epoch. -/
def starts (s : Signed) : Bool := s.outcome = .lifecycle .started

def entry (s : Signed) : Option (String × PendingAppend) :=
  match s.outcome with
  | .durableAppend appendId destinationId recordCount =>
      some (appendId, ⟨s.revision, destinationId, recordCount⟩)
  | _ => none

/-- The incarnation of the append that a receipt settles. -/
def settles (s : Signed) : Option Count :=
  match s.outcome with
  | .acknowledged join => some join.appendRevision
  | .failure fields => if fields.kind.retained then none else fields.append.map Prod.snd
  | _ => none

/-- The incarnation of the append whose failure a receipt resolves. -/
def resolves (s : Signed) : Option Count :=
  match s.outcome with
  | .materialized join => some join.appendRevision
  | _ => s.settles

/-- The incarnation of the append that a receipt reports as failed. -/
def fails (s : Signed) : Option Count :=
  match s.outcome with
  | .failure fields => if fields.kind.retained then fields.append.map Prod.snd else none
  | _ => none

/-- The records that a receipt reports as lost or rejected. -/
def lost (s : Signed) : ℕ :=
  match s.outcome with
  | .failure fields => if fields.kind.retained then 0 else fields.recordCount.value
  | _ => 0

/-- Whether a receipt is about an append or the archive and no failure. -/
def proves (s : Signed) : Bool :=
  match s.outcome with
  | .durableAppend _ _ _ => true
  | .materialized _ => true
  | .acknowledged _ => true
  | .archive _ _ => true
  | _ => false

end Signed

def unsettled : List Signed → List (String × PendingAppend)
  | [] => []
  | s :: log =>
      if s.starts then []
      else s.entry.toList ++ (unsettled log).filter fun p => s.settles ≠ some p.2.revision

def pendingRecords (log : List Signed) : ℕ :=
  ((unsettled log).map fun p => p.2.recordCount.value).sum

/-- The failures of the epoch that are not resolved. -/
def failing : List Signed → List Count
  | [] => []
  | s :: log =>
      if s.starts then []
      else s.fails.toList ++ (failing log).filter fun v => s.resolves ≠ some v

/-- The records of the epoch that are lost or rejected. -/
def lostRecords : List Signed → ℕ
  | [] => 0
  | s :: log => if s.starts then 0 else s.lost + lostRecords log

/-- The records lost or rejected since the last receipt about an append or the archive. -/
def lostSince : List Signed → ℕ
  | [] => 0
  | s :: log => if s.starts || s.proves then 0 else s.lost + lostSince log

/-- Whether the epoch is active. -/
def live : List Signed → Bool
  | [] => false
  | s :: log =>
      match s.outcome with
      | .lifecycle state => state = .started
      | _ => live log

def epochOf : List Signed → Option String
  | [] => none
  | s :: log => if s.starts then some s.recordingEpochId else epochOf log

inductive Accepts (o : Owner τ) (r : Receipt τ) : Owner τ → Prop
  | started (reason : String) :
      r.signed.outcome = .lifecycle .started → o.active = false → o.pending.entries = [] →
        r.signed.recordingEpochId ∉ o.usedEpochIds →
          Accepts o r
            ({ o with
                usedEpochIds := insert r.signed.recordingEpochId o.usedEpochIds
                epoch := some r.signed.recordingEpochId
                active := true
                materializationRevision := 0
                archiveRevision := none
                materialized := .empty
                unavailableAppendRevisions := ∅
                dropped := 0
                directCommitRevision := 0
                storage := .unknown
                spoolSeen := false : Owner τ }.accept r reason)
  | ended (state : OwnerLifecycle) (reason : String) :
      r.signed.outcome = .lifecycle state → state ≠ .started →
        Accepts o r
          ({ o with active := false, storage := .unavailable : Owner τ }.accept r reason)
  | appended (appendId destinationId : String) (n : Count) (storage : Availability)
      (reason : String) :
      r.signed.outcome = .durableAppend appendId destinationId n → o.active = true →
        o.pending.get? appendId = none →
          (storage = .available → o.unavailableAppendRevisions = ∅) →
            Accepts o r
              ({ o with
                  pending := o.pending.set appendId ⟨r.signed.revision, destinationId, n⟩
                  spoolSeen := true
                  pendingCount := o.pendingCount + n.value
                  storage := storage : Owner τ }.accept r reason)
  | committed (sourceCommitRevision n : Count) (destinationId : String) (storage : Availability)
      (reason : String) :
      r.signed.outcome = .directCommit sourceCommitRevision destinationId n → o.active = true →
        o.spoolSeen = false → (storage = .available → o.dropped = 0) →
          Accepts o r
            ({ o with
                directCommitRevision := sourceCommitRevision.value
                materializationRevision := sourceCommitRevision.value
                storage := storage : Owner τ }.accept r reason)
  | materialized (j : AppendJoin) (storage : Availability) (reason : String) :
      r.signed.outcome = .materialized j →
        (storage = .available → o.active = true ∧
          o.unavailableAppendRevisions.erase j.appendRevision = ∅) →
          Accepts o r
            ({ o with
                materializationRevision := j.materializationRevision.value
                materialized := o.materialized.set j.appendId (j.pending, j.materializationRevision)
                unavailableAppendRevisions := o.unavailableAppendRevisions.erase j.appendRevision
                storage := storage : Owner τ }.accept r reason)
  | acknowledged (j : AppendJoin) (storage : Availability) (reason : String) :
      r.signed.outcome = .acknowledged j → o.pending.get? j.appendId = some j.pending →
        (storage = .available → o.active = true ∧
          o.unavailableAppendRevisions.erase j.appendRevision = ∅) →
          Accepts o r
            ({ o with
                pending := o.pending.erase j.appendId
                materialized := o.materialized.erase j.appendId
                pendingCount := o.pendingCount - j.recordCount.value
                unavailableAppendRevisions := o.unavailableAppendRevisions.erase j.appendRevision
                storage := storage : Owner τ }.accept r reason)
  | rejected (f : FailureFields) :
      r.signed.outcome = .failure f → f.kind = .rejection → f.append = none →
        Accepts o r
          ({ o with
              dropped := o.dropped + f.recordCount.value
              usedFailureIds := insert f.failureId o.usedFailureIds
              storage := .unavailable : Owner τ }.accept r f.reason)
  | deferred (f : FailureFields) (appendId : String) (p : PendingAppend) :
      r.signed.outcome = .failure f → f.kind.retained = true →
        f.append = some (appendId, p.revision) → o.pending.get? appendId = some p →
          Accepts o r
            ({ o with
                unavailableAppendRevisions := insert p.revision o.unavailableAppendRevisions
                usedFailureIds := insert f.failureId o.usedFailureIds
                storage := .unavailable : Owner τ }.accept r f.reason)
  | lost (f : FailureFields) (appendId : String) (p : PendingAppend) :
      r.signed.outcome = .failure f → f.kind.retained = false →
        f.append = some (appendId, p.revision) → o.pending.get? appendId = some p →
          p.recordCount = f.recordCount →
            Accepts o r
              ({ o with
                  pending := o.pending.erase appendId
                  materialized := o.materialized.erase appendId
                  unavailableAppendRevisions := o.unavailableAppendRevisions.erase p.revision
                  pendingCount := o.pendingCount - p.recordCount.value
                  dropped := o.dropped + f.recordCount.value
                  usedFailureIds := insert f.failureId o.usedFailureIds
                  storage := .unavailable : Owner τ }.accept r f.reason)
  | archived (archiveRevision : Count) (destinationId : String) (storage : Availability)
      (reason : String) :
      r.signed.outcome = .archive archiveRevision destinationId → o.active = true →
        (storage = .available → o.unavailableAppendRevisions = ∅) →
          Accepts o r
            ({ o with
                archiveRevision := some archiveRevision.value
                storage := storage : Owner τ }.accept r reason)

/-- A capacity is exhausted: the owner consumes the receipt and is unavailable for good. -/
structure Exhausts (o : Owner τ) (r : Receipt τ) (o' : Owner τ) : Prop where
  cause : ∀ state, r.signed.outcome ≠ .lifecycle state
  working : o.terminalUnavailableReason = none
  terminal : o'.terminalUnavailableReason.isSome = true
  storage : o'.storage = .unavailable
  pending : o'.pending = o.pending
  count : o'.pendingCount = o.pendingCount ∨
    maxTrackedIdentities ≤ o.pending.entries.length ∧ ∃ appendId destinationId n,
      r.signed.outcome = .durableAppend appendId destinationId n ∧
        o'.pendingCount = o.pendingCount + n.value
  dropped : o'.dropped = o.dropped
  rest : o'.unavailableAppendRevisions = o.unavailableAppendRevisions ∧ o'.active = o.active ∧
    o'.epoch = o.epoch ∧ o'.usedEpochIds = o.usedEpochIds ∧ o'.spoolSeen = o.spoolSeen
  receiptRevision : o'.receiptRevision = r.signed.revision.value
  snapshot : o'.snapshot = o'.makeSnapshot o'.snapshot.reason

def Counted (o : Owner τ) : Prop :=
  ∀ appendId p, o.pending.get? appendId = some p → p.recordCount.value ≤ o.pendingCount

/-- How a branch of `feed` ends. -/
inductive Branch (o : Owner τ) (r : Receipt τ) : Fed τ → Prop
  | refused (e : Refusal) : Branch o r (o, some e)
  | accepted {o' : Owner τ} : Accepts o r o' → Branch o r (o', none)
  | exhausted {o' : Owner τ} (e : Refusal) : Exhausts o r o' → Branch o r (o', some e)

section Branches

variable {o : Owner τ} {r : Receipt τ}

theorem failTerminalCapacity_exhausts (hcause : ∀ state, r.signed.outcome ≠ .lifecycle state)
    (hworking : o.terminalUnavailableReason = none) (reason : String) :
    Branch o r (o.failTerminalCapacity r reason) :=
  .exhausted _ ⟨hcause, hworking, rfl, rfl, rfl, .inl rfl, rfl, ⟨rfl, rfl, rfl, rfl, rfl⟩, rfl, rfl⟩

theorem feedLifecycle_branch {state : OwnerLifecycle}
    (h : r.signed.outcome = .lifecycle state) : Branch o r (o.feedLifecycle r state) := by
  unfold Owner.feedLifecycle
  by_cases hs : state = .started
  · rw [if_pos hs]
    split
    · exact .refused _
    · rename_i hidle
      rw [not_or, not_not] at hidle
      split
      · exact .refused _
      · rename_i hfresh
        split
        · exact .refused _
        · exact .accepted (.started _ (hs ▸ h) (Bool.eq_false_iff.mpr hidle.1) hidle.2 hfresh)
  · rw [if_neg hs]
    unfold Owner.epochMatches
    split
    · exact .refused _
    · exact .accepted (.ended state _ h hs)

theorem feedAppend_branch {appendId destinationId : String} {n : Count}
    (hworking : o.terminalUnavailableReason = none)
    (h : r.signed.outcome = .durableAppend appendId destinationId n) :
    Branch o r (o.feedAppend r appendId destinationId n) := by
  have hcause : ∀ state, r.signed.outcome ≠ .lifecycle state := by simp [h]
  unfold Owner.feedAppend
  split
  · exact .refused _
  · rename_i hactive
    split
    · exact .refused _
    · split
      · exact .refused _
      · rename_i hnew
        split
        · exact failTerminalCapacity_exhausts hcause hworking _
        · split
          · rename_i hfull
            exact .exhausted _ ⟨hcause, hworking, rfl, rfl, rfl, .inr ⟨hfull, _, _, _, h, rfl⟩, rfl,
              ⟨rfl, rfl, rfl, rfl, rfl⟩, rfl, rfl⟩
          · refine .accepted (.appended _ _ _ _ _ h (Bool.not_eq_false _ ▸ hactive)
              (Option.not_isSome_iff_eq_none.mp hnew) ?_)
            split
            · exact fun _ => ‹_›
            · intro hs
              cases hs

theorem feedDirectCommit_branch {source n : Count} {destinationId : String}
    (h : r.signed.outcome = .directCommit source destinationId n) :
    Branch o r (o.feedDirectCommit r source) := by
  unfold Owner.feedDirectCommit
  split
  · exact .refused _
  · rename_i hactive
    split
    · exact .refused _
    · rename_i hspool
      split
      · exact .refused _
      · refine .accepted (.committed _ _ _ _ _ h (Bool.not_eq_false _ ▸ hactive)
          (Bool.eq_false_iff.mpr hspool) ?_)
        split
        · exact fun _ => ‹_›
        · intro hs
          cases hs

theorem settledStorage_available {good integrity stopped : String}
    (h : (o.settledStorage good integrity stopped).1 = .available) :
    o.active = true ∧ o.unavailableAppendRevisions = ∅ := by
  unfold Owner.settledStorage at h
  split at h
  · assumption
  · cases h

theorem feedMaterialized_branch {j : AppendJoin} (h : r.signed.outcome = .materialized j) :
    Branch o r (o.feedMaterialized r j) := by
  unfold Owner.feedMaterialized
  split
  · exact .refused _
  · split
    · exact .refused _
    · exact .accepted (.materialized j _ _ h fun hs => settledStorage_available hs)

theorem feedAck_branch {j : AppendJoin} (hcounted : Counted o)
    (h : r.signed.outcome = .acknowledged j) : Branch o r (o.feedAck r j) := by
  unfold Owner.feedAck
  split
  · exact .refused _
  · rename_i hjoin
    rw [not_or, not_not] at hjoin
    dsimp only
    split
    · rename_i hlow
      have hle : j.recordCount.value ≤ o.pendingCount := hcounted _ _ hjoin.1
      omega
    · exact .accepted (.acknowledged j _ _ h hjoin.1 fun hs => settledStorage_available hs)

theorem feedFailure_branch {f : FailureFields} (hworking : o.terminalUnavailableReason = none)
    (hcounted : Counted o) (h : r.signed.outcome = .failure f) :
    Branch o r (o.feedFailure r f) := by
  have hcause : ∀ state, r.signed.outcome ≠ .lifecycle state := by simp [h]
  unfold Owner.feedFailure
  split
  · exact .refused _
  · split
    · exact failTerminalCapacity_exhausts hcause hworking _
    · split
      · exact failTerminalCapacity_exhausts hcause hworking _
      · cases happend : f.append with
        | none =>
            dsimp only
            split
            · exact .refused _
            · have hkind : f.kind = .rejection := by
                by_contra hne
                have hsome := f.identified hne
                rw [happend] at hsome
                cases hsome
              have haccepts := Accepts.rejected (o := o) f h hkind happend
              unfold Owner.failed
              rw [hkind]
              exact .accepted haccepts
        | some join =>
            obtain ⟨appendId, appendRevision⟩ := join
            dsimp only
            cases hpending : o.pending.get? appendId with
            | none => exact .refused _
            | some p =>
                dsimp only
                split
                · exact .refused _
                · rename_i hmatch
                  rw [not_or, not_not, not_not] at hmatch
                  obtain ⟨rfl, hcount⟩ := hmatch
                  cases hretained : f.kind.retained with
                  | true =>
                      rw [if_pos rfl]
                      split
                      · exact .refused _
                      · unfold Owner.failed
                        rw [hretained]
                        exact .accepted (.deferred f appendId p h hretained happend hpending)
                  | false =>
                      rw [if_neg Bool.false_ne_true]
                      split
                      · rename_i hlow
                        have hle := hcounted _ _ hpending
                        have hlow' : o.pendingCount < f.recordCount.value := hlow
                        rw [← hcount] at hlow'
                        omega
                      · have haccepts :=
                          Accepts.lost (o := o) f appendId p h hretained happend hpending hcount
                        rw [hcount] at haccepts
                        unfold Owner.failed
                        rw [hretained]
                        exact .accepted haccepts

theorem feedArchive_branch {archiveRevision : Count} {destinationId : String}
    (h : r.signed.outcome = .archive archiveRevision destinationId) :
    Branch o r (o.feedArchive r archiveRevision) := by
  unfold Owner.feedArchive
  split
  · exact .refused _
  · rename_i hactive
    split
    · exact .refused _
    · refine .accepted (.archived _ _ _ _ h (Bool.not_eq_false _ ▸ hactive) ?_)
      split
      · exact fun _ => ‹_›
      · intro hs
        cases hs

theorem epochMatches_branch {next : Fed τ} (h : Branch o r next) :
    Branch o r (o.epochMatches r next) := by
  unfold Owner.epochMatches
  split
  · exact .refused _
  · exact h

theorem feedNew_branch (hworking : o.terminalUnavailableReason = none) (hcounted : Counted o) :
    Branch o r (o.feedNew r) := by
  unfold Owner.feedNew
  cases h : r.signed.outcome with
  | lifecycle state => exact feedLifecycle_branch h
  | durableAppend appendId destinationId n =>
      exact epochMatches_branch (feedAppend_branch hworking h)
  | directCommit source destinationId n => exact epochMatches_branch (feedDirectCommit_branch h)
  | materialized j => exact epochMatches_branch (feedMaterialized_branch h)
  | acknowledged j => exact epochMatches_branch (feedAck_branch hcounted h)
  | failure f => exact epochMatches_branch (feedFailure_branch hworking hcounted h)
  | archive archiveRevision destinationId => exact epochMatches_branch (feedArchive_branch h)

/-- How a call of `feed` ends. -/
inductive Course [DecidableEq τ] (A : OutcomeAuthority τ) (o : Owner τ) (r : Receipt τ) :
    Fed τ → Prop
  | refused (e : Refusal) : Course A o r (o, some e)
  | repeated : r = A.issue r.signed → r.signed.revision.value = o.receiptRevision →
      o.lastToken = some r.provenance → o.terminalUnavailableReason = none → Course A o r (o, none)
  | accepted {o' : Owner τ} : r = A.issue r.signed → o.receiptRevision < r.signed.revision.value →
      o.terminalUnavailableReason = none → Accepts o r o' → Course A o r (o', none)
  | exhausted {o' : Owner τ} (e : Refusal) : o.receiptRevision < r.signed.revision.value →
      Exhausts o r o' → Course A o r (o', some e)

variable [DecidableEq τ] {A : OutcomeAuthority τ}

theorem preflight_ok {isNew : Bool} (h : o.preflight A r = .ok isNew) :
    r = A.issue r.signed ∧
      ((isNew = true ∧ o.receiptRevision < r.signed.revision.value) ∨
        (isNew = false ∧ r.signed.revision.value = o.receiptRevision ∧
          o.lastToken = some r.provenance)) := by
  unfold Owner.preflight at h
  split at h
  · cases h
  · rename_i hverifies
    refine ⟨OutcomeAuthority.verifies_iff.mp (Bool.not_eq_false _ ▸ hverifies), ?_⟩
    split at h
    · cases h
    · rename_i hle
      split at h
      · rename_i heq
        split at h
        · cases h
        · rename_i htoken
          rw [not_not] at htoken
          exact .inr ⟨(Except.ok.inj h).symm, heq, htoken.symm⟩
      · rename_i hne
        split at h
        · cases h
        · exact .inl ⟨(Except.ok.inj h).symm, by omega⟩

theorem feed_cases (hcounted : o.terminalUnavailableReason = none → Counted o) :
    Course A o r (o.feed A r) := by
  unfold Owner.feed
  cases hpreflight : o.preflight A r with
  | error e => exact .refused e
  | ok isNew =>
      dsimp only
      obtain ⟨hissued, hcase⟩ := preflight_ok hpreflight
      cases hterminal : o.terminalUnavailableReason with
      | some reason => exact .refused _
      | none =>
          dsimp only
          rcases hcase with ⟨rfl, hlt⟩ | ⟨rfl, heq, htoken⟩
          · rw [if_pos rfl]
            have hbranch := feedNew_branch (r := r) hterminal (hcounted hterminal)
            generalize o.feedNew r = x at hbranch
            cases hbranch with
            | refused e => exact .refused e
            | accepted haccepts => exact .accepted hissued hlt hterminal haccepts
            | exhausted e hexhausts => exact .exhausted e hlt hexhausts
          · rw [if_neg Bool.false_ne_true]
            exact .repeated hissued heq htoken hterminal

end Branches

/-- The pending appends are those of the receipts that the owner has accepted. -/
structure Books (log : List Signed) (o : Owner τ) : Prop where
  entries : o.pending.entries = (unsettled log).reverse
  count : o.terminalUnavailableReason = none → o.pendingCount = pendingRecords log
  incarnations : (o.pending.entries.map fun p => p.2.revision).Nodup
  past : ∀ p ∈ o.pending.entries, p.2.revision.value ≤ o.receiptRevision

/-- The owner agrees with the receipts that it has accepted. -/
structure Tracks (log : List Signed) (o : Owner τ) : Prop where
  books : Books log o
  failures : ∀ v, v ∈ o.unavailableAppendRevisions ↔ v ∈ failing log
  spool : o.spoolSeen = false → o.pending.entries = [] ∧ o.unavailableAppendRevisions = ∅
  dropped : o.dropped = lostRecords log
  active : o.active = live log
  epoch : o.epoch = epochOf log
  used : ∀ e, e ∈ o.usedEpochIds ↔ ∃ s ∈ log, s.starts = true ∧ s.recordingEpochId = e
  proved : o.storage = .available →
    o.terminalUnavailableReason = none ∧ o.active = true ∧ o.unavailableAppendRevisions = ∅ ∧
      lostSince log = 0
  snapshot : o.snapshot = o.makeSnapshot o.snapshot.reason

section Invariant

variable {o o' : Owner τ} {r : Receipt τ} {log : List Signed}

theorem sum_filter_revision {l : List (String × PendingAppend)} {appendId : String}
    {p : PendingAppend} (hmem : (appendId, p) ∈ l) (hnodup : (l.map fun q => q.2.revision).Nodup) :
    (l.map fun q => q.2.recordCount.value).sum = p.recordCount.value +
      ((l.filter fun q => some p.revision ≠ some q.2.revision).map
        fun q => q.2.recordCount.value).sum := by
  induction l with
  | nil => cases hmem
  | cons q rest ih =>
      rw [List.map_cons, List.nodup_cons] at hnodup
      obtain ⟨hnot, hrest⟩ := hnodup
      rcases List.mem_cons.mp hmem with rfl | hin
      · have hkept : rest.filter (fun q => some p.revision ≠ some q.2.revision) = rest := by
          rw [List.filter_eq_self]
          intro q hq
          rw [decide_eq_true_eq, ne_eq, Option.some.injEq]
          intro hrevision
          exact hnot (List.mem_map.mpr ⟨q, hq, hrevision.symm⟩)
        rw [List.filter_cons_of_neg (by simp), hkept, List.map_cons, List.sum_cons]
      · have hne : some p.revision ≠ some q.2.revision := by
          intro heq
          exact hnot (List.mem_map.mpr ⟨(appendId, p), hin, Option.some.inj heq⟩)
        rw [List.filter_cons_of_pos (by simpa using hne), List.map_cons, List.map_cons,
          List.sum_cons, List.sum_cons, ih hin hrest]
        omega

theorem Books.settle (h : Books log o) {appendId : String} {p : PendingAppend}
    (hp : o.pending.get? appendId = some p) :
    (o.pending.erase appendId).entries =
        ((unsettled log).filter fun q => some p.revision ≠ some q.2.revision).reverse ∧
      pendingRecords log = p.recordCount.value +
        (((unsettled log).filter fun q => some p.revision ≠ some q.2.revision).map
          fun q => q.2.recordCount.value).sum := by
  have hmem : (appendId, p) ∈ o.pending.entries := (o.pending.mem_entries appendId p).mpr hp
  have hsame : ∀ q ∈ o.pending.entries, q.2.revision = p.revision → q = (appendId, p) :=
    fun q hq hrevision => List.inj_on_of_nodup_map h.incarnations hq hmem hrevision
  have hfilter : ∀ q ∈ o.pending.entries,
      decide (q.1 ≠ appendId) = decide (some p.revision ≠ some q.2.revision) := by
    intro q hq
    rw [decide_eq_decide, ne_eq, ne_eq, not_iff_not, Option.some.injEq]
    constructor
    · intro hid
      have hvalue : q = (appendId, p) := List.inj_on_of_nodup_map o.pending.nodup hq hmem hid
      rw [hvalue]
    · intro hrevision
      rw [hsame q hq hrevision.symm]
  constructor
  · change o.pending.entries.filter (fun q => q.1 ≠ appendId) = _
    rw [List.filter_congr hfilter, h.entries, List.filter_reverse]
  · have hmem' : (appendId, p) ∈ unsettled log := by
      rw [h.entries] at hmem
      exact List.mem_reverse.mp hmem
    have hnodup : ((unsettled log).map fun q => q.2.revision).Nodup := by
      have hall := h.incarnations
      rw [h.entries, List.map_reverse, List.nodup_reverse] at hall
      exact hall
    exact sum_filter_revision hmem' hnodup

theorem Books.counted (h : Books log o) (hterminal : o.terminalUnavailableReason = none) :
    Counted o := by
  intro appendId p hp
  rw [h.count hterminal, (h.settle hp).2]
  exact Nat.le_add_right _ _

theorem unsettled_cons {s : Signed} (hstarts : s.starts = false) :
    unsettled (s :: log) =
      s.entry.toList ++ (unsettled log).filter fun p => s.settles ≠ some p.2.revision := by
  rw [unsettled, hstarts]
  rfl

theorem failing_cons {s : Signed} (hstarts : s.starts = false) :
    failing (s :: log) =
      s.fails.toList ++ (failing log).filter fun v => s.resolves ≠ some v := by
  rw [failing, hstarts]
  rfl

theorem lostRecords_cons {s : Signed} (hstarts : s.starts = false) :
    lostRecords (s :: log) = s.lost + lostRecords log := by
  rw [lostRecords, hstarts]
  rfl

theorem unsettled_cons_of_none {s : Signed} (hstarts : s.starts = false) (hentry : s.entry = none)
    (hsettles : s.settles = none) : unsettled (s :: log) = unsettled log := by
  rw [unsettled_cons hstarts, hentry, hsettles]
  exact List.filter_eq_self.mpr fun _ _ => rfl

theorem failing_cons_of_none {s : Signed} (hstarts : s.starts = false) (hfails : s.fails = none)
    (hresolves : s.resolves = none) : failing (s :: log) = failing log := by
  rw [failing_cons hstarts, hfails, hresolves]
  exact List.filter_eq_self.mpr fun _ _ => rfl

theorem mem_failing_resolved {s : Signed} {v u : Count} (hstarts : s.starts = false)
    (hfails : s.fails = none) (hresolves : s.resolves = some v) :
    u ∈ failing (s :: log) ↔ u ≠ v ∧ u ∈ failing log := by
  rw [failing_cons hstarts, hfails, hresolves, Option.toList_none, List.nil_append,
    List.mem_filter, decide_eq_true_eq, ne_eq, Option.some.injEq, and_comm, eq_comm]

theorem lostSince_le : lostSince log ≤ lostRecords log := by
  induction log with
  | nil => exact Nat.le_refl 0
  | cons s log ih =>
      rw [lostSince, lostRecords]
      by_cases hstarts : s.starts = true
      · rw [hstarts]
        exact Nat.le_refl 0
      · rw [Bool.eq_false_iff.mpr hstarts]
        by_cases hproves : s.proves = true
        · rw [hproves]
          exact Nat.zero_le _
        · rw [Bool.eq_false_iff.mpr hproves]
          exact Nat.add_le_add_left ih _

theorem live_cons {s : Signed} (h : ∀ state, s.outcome ≠ .lifecycle state) :
    live (s :: log) = live log := by
  cases hout : s.outcome with
  | lifecycle state => exact absurd hout (h state)
  | _ => simp only [live, hout]

theorem epochOf_cons {s : Signed} (hstarts : s.starts = false) :
    epochOf (s :: log) = epochOf log := by
  rw [epochOf, hstarts]
  rfl

theorem starts_false {s : Signed} (h : ∀ state, s.outcome ≠ .lifecycle state) :
    s.starts = false := decide_eq_false (h _)

theorem Tracks.used_cons (h : Tracks log o) {s : Signed} (hstarts : s.starts = false) (e : String) :
    e ∈ o.usedEpochIds ↔ ∃ u ∈ s :: log, u.starts = true ∧ u.recordingEpochId = e := by
  rw [h.used]
  constructor
  · rintro ⟨u, hu, hrest⟩
    exact ⟨u, List.mem_cons_of_mem _ hu, hrest⟩
  · rintro ⟨u, hu, hu', he⟩
    rcases List.mem_cons.mp hu with rfl | hold
    · rw [hstarts] at hu'
      cases hu'
    · exact ⟨u, hold, hu', he⟩

section Entries

variable (h : Books log o) (hlt : o.receiptRevision < r.signed.revision.value)
  (hterminal : o'.terminalUnavailableReason = o.terminalUnavailableReason)
  (hrevision : o'.receiptRevision = r.signed.revision.value)

include h hlt hterminal hrevision

theorem Books.same (hstarts : r.signed.starts = false) (hentry : r.signed.entry = none)
    (hsettles : r.signed.settles = none) (hpending : o'.pending = o.pending)
    (hcount : o'.pendingCount = o.pendingCount) : Books (r.signed :: log) o' where
  entries := by
    rw [hpending, unsettled_cons_of_none hstarts hentry hsettles]
    exact h.entries
  count ht := by
    unfold pendingRecords
    rw [hcount, unsettled_cons_of_none hstarts hentry hsettles]
    exact h.count (hterminal.symm.trans ht)
  incarnations := by
    rw [hpending]
    exact h.incarnations
  past p hp := by
    rw [hpending] at hp
    have hle := h.past p hp
    omega

theorem Books.append {appendId destinationId : String} {n : Count}
    (hout : r.signed.outcome = .durableAppend appendId destinationId n)
    (hnew : o.pending.get? appendId = none)
    (hpending : o'.pending = o.pending.set appendId ⟨r.signed.revision, destinationId, n⟩)
    (hcount : o'.pendingCount = o.pendingCount + n.value) : Books (r.signed :: log) o' := by
  have hstarts : r.signed.starts = false := by simp [Signed.starts, hout]
  have hentry : r.signed.entry = some (appendId, ⟨r.signed.revision, destinationId, n⟩) := by
    simp [Signed.entry, hout]
  have hsettles : r.signed.settles = none := by simp [Signed.settles, hout]
  have hunsettled : unsettled (r.signed :: log) =
      (appendId, ⟨r.signed.revision, destinationId, n⟩) :: unsettled log := by
    rw [unsettled_cons hstarts, hentry, hsettles]
    exact congrArg (_ :: ·) (List.filter_eq_self.mpr fun _ _ => rfl)
  have hentries : o'.pending.entries =
      o.pending.entries ++ [(appendId, ⟨r.signed.revision, destinationId, n⟩)] := by
    rw [hpending]
    refine Dict.setEntry_eq_append ?_
    intro hmem
    obtain ⟨p, hp⟩ := (o.pending.mem_keys appendId).mp hmem
    rw [hnew] at hp
    cases hp
  refine ⟨?_, ?_, ?_, ?_⟩
  · rw [hentries, hunsettled, List.reverse_cons, ← h.entries]
  · intro ht
    have hold := h.count (hterminal.symm.trans ht)
    unfold pendingRecords at hold ⊢
    rw [hunsettled, List.map_cons, List.sum_cons, hcount, hold]
    exact Nat.add_comm _ _
  · rw [hentries, List.map_append]
    refine List.Nodup.append h.incarnations (List.nodup_singleton _) ?_
    intro v hold hv
    rw [List.map_singleton, List.mem_singleton] at hv
    obtain ⟨p, hp, rfl⟩ := List.mem_map.mp hold
    have hle := h.past p hp
    rw [hv] at hle
    exact absurd hlt (Nat.not_lt_of_le hle)
  · intro p hp
    rw [hentries] at hp
    rcases List.mem_append.mp hp with hold | hnew'
    · have hle := h.past p hold
      omega
    · rw [List.mem_singleton.mp hnew', hrevision]

omit hterminal in
theorem Books.settled (hworking : o.terminalUnavailableReason = none)
    (hstarts : r.signed.starts = false) (hentry : r.signed.entry = none) {appendId : String}
    {p : PendingAppend} (hsettles : r.signed.settles = some p.revision)
    (hp : o.pending.get? appendId = some p) (hpending : o'.pending = o.pending.erase appendId)
    (hcount : o'.pendingCount = o.pendingCount - p.recordCount.value) :
    Books (r.signed :: log) o' := by
  obtain ⟨hentries, hsum⟩ := h.settle hp
  have hsublist : (o.pending.erase appendId).entries.Sublist o.pending.entries :=
    List.filter_sublist
  have hunsettled : unsettled (r.signed :: log) =
      (unsettled log).filter fun q => some p.revision ≠ some q.2.revision := by
    rw [unsettled_cons hstarts, hentry, hsettles]
    rfl
  refine ⟨?_, ?_, ?_, ?_⟩
  · rw [hpending, hentries, hunsettled]
  · intro _
    have hold := h.count hworking
    rw [hcount, hold, hsum, Nat.add_sub_cancel_left]
    unfold pendingRecords
    rw [hunsettled]
  · rw [hpending]
    exact h.incarnations.sublist (hsublist.map _)
  · intro q hq
    rw [hpending] at hq
    have hle := h.past q (hsublist.subset hq)
    omega

end Entries

theorem Tracks.enter (h : Tracks log o) (hbooks : Books (r.signed :: log) o')
    (hlive : ∀ state, r.signed.outcome ≠ .lifecycle state)
    (hfailures : ∀ v, v ∈ o'.unavailableAppendRevisions ↔ v ∈ failing (r.signed :: log))
    (hspool : o'.spoolSeen = false →
      o'.pending.entries = [] ∧ o'.unavailableAppendRevisions = ∅)
    (hdropped : o'.dropped = r.signed.lost + o.dropped)
    (hactive : o'.active = o.active) (hepoch : o'.epoch = o.epoch)
    (hused : o'.usedEpochIds = o.usedEpochIds)
    (hproved : o'.storage = .available →
      o'.terminalUnavailableReason = none ∧ o'.active = true ∧
        o'.unavailableAppendRevisions = ∅ ∧ lostSince (r.signed :: log) = 0)
    (hsnapshot : o'.snapshot = o'.makeSnapshot o'.snapshot.reason) :
    Tracks (r.signed :: log) o' where
  books := hbooks
  failures := hfailures
  spool := hspool
  dropped := by
    rw [hdropped, lostRecords_cons (starts_false hlive), h.dropped]
  active := by
    rw [hactive, live_cons hlive]
    exact h.active
  epoch := by
    rw [hepoch, epochOf_cons (starts_false hlive)]
    exact h.epoch
  used := by
    rw [hused]
    exact h.used_cons (starts_false hlive)
  proved := hproved
  snapshot := hsnapshot

theorem lostSince_of_proves {s : Signed} (h : s.proves = true) : lostSince (s :: log) = 0 := by
  rw [lostSince, h, Bool.or_true]
  rfl

theorem Tracks.start (h : Tracks log o) (hterminal : o.terminalUnavailableReason = none)
    (hlt : o.receiptRevision < r.signed.revision.value) (reason : String)
    (hout : r.signed.outcome = .lifecycle .started) (hempty : o.pending.entries = []) :
    Tracks (r.signed :: log)
      ({ o with
          usedEpochIds := insert r.signed.recordingEpochId o.usedEpochIds
          epoch := some r.signed.recordingEpochId
          active := true
          materializationRevision := 0
          archiveRevision := none
          materialized := .empty
          unavailableAppendRevisions := ∅
          dropped := 0
          directCommitRevision := 0
          storage := .unknown
          spoolSeen := false : Owner τ }.accept r reason) := by
  have hstarts : r.signed.starts = true := decide_eq_true hout
  have hunsettled : unsettled (r.signed :: log) = [] := by rw [unsettled, if_pos hstarts]
  have hrecords : pendingRecords log = 0 := by
    have hnil := h.books.entries
    rw [hempty] at hnil
    unfold pendingRecords
    rw [List.reverse_eq_nil_iff.mp hnil.symm]
    rfl
  refine ⟨⟨?_, ?_, h.books.incarnations, ?_⟩, ?_, fun _ => ⟨hempty, rfl⟩, ?_, ?_, ?_, ?_,
    fun hs => (nomatch hs), rfl⟩
  · rw [hunsettled]
    exact hempty
  · intro _
    unfold pendingRecords
    rw [hunsettled]
    exact (h.books.count hterminal).trans hrecords
  · intro p hp
    exact Nat.le_of_lt (Nat.lt_of_le_of_lt (h.books.past p hp) hlt)
  · intro v
    rw [failing, if_pos hstarts]
    exact ⟨fun hv => absurd hv (Finset.notMem_empty v), fun hv => (nomatch hv)⟩
  · rw [lostRecords, if_pos hstarts]
    rfl
  · simp only [live, hout]
    rfl
  · rw [epochOf, if_pos hstarts]
    rfl
  · intro e
    change e ∈ insert r.signed.recordingEpochId o.usedEpochIds ↔ _
    rw [Finset.mem_insert, h.used]
    constructor
    · rintro (rfl | ⟨u, hu, hrest⟩)
      · exact ⟨r.signed, List.mem_cons_self, hstarts, rfl⟩
      · exact ⟨u, List.mem_cons_of_mem _ hu, hrest⟩
    · rintro ⟨u, hu, hu', he⟩
      rcases List.mem_cons.mp hu with rfl | hold
      · exact .inl he.symm
      · exact .inr ⟨u, hold, hu', he⟩

theorem Tracks.accepts (h : Tracks log o) (hterminal : o.terminalUnavailableReason = none)
    (hlt : o.receiptRevision < r.signed.revision.value) (ha : Accepts o r o') :
    Tracks (r.signed :: log) o' := by
  cases ha with
  | started reason hout hactive hempty hfresh => exact h.start hterminal hlt reason hout hempty
  | ended state reason hout hne =>
      have hstarts : r.signed.starts = false := by
        refine decide_eq_false ?_
        rw [hout]
        exact fun heq => hne (Outcome.lifecycle.inj heq)
      have hentry : r.signed.entry = none := by simp [Signed.entry, hout]
      have hsettles : r.signed.settles = none := by simp [Signed.settles, hout]
      have hfails : r.signed.fails = none := by simp [Signed.fails, hout]
      have hresolves : r.signed.resolves = none := by simp [Signed.resolves, hout, hsettles]
      have hlost : r.signed.lost = 0 := by simp [Signed.lost, hout]
      refine ⟨h.books.same hlt rfl rfl hstarts hentry hsettles rfl rfl, ?_, h.spool, ?_, ?_, ?_,
        h.used_cons hstarts, fun hs => (nomatch hs), rfl⟩
      · intro v
        rw [failing_cons_of_none hstarts hfails hresolves]
        exact h.failures v
      · rw [lostRecords_cons hstarts, hlost, Nat.zero_add]
        exact h.dropped
      · simp only [live, hout]
        exact (decide_eq_false hne).symm
      · rw [epochOf_cons hstarts]
        exact h.epoch
  | appended appendId destinationId n storage reason hout hactive hnew hstorage =>
      have hlive : ∀ state, r.signed.outcome ≠ .lifecycle state := by simp [hout]
      have hlost : r.signed.lost = 0 := by simp [Signed.lost, hout]
      refine h.enter (h.books.append hlt rfl rfl hout hnew rfl rfl) hlive ?_
        (fun hs => (nomatch hs)) ?_ rfl rfl rfl ?_ rfl
      · intro v
        rw [failing_cons_of_none (starts_false hlive) (by simp [Signed.fails, hout])
          (by simp [Signed.resolves, Signed.settles, hout])]
        exact h.failures v
      · rw [hlost, Nat.zero_add]
        rfl
      · intro hs
        exact ⟨hterminal, hactive, hstorage hs, lostSince_of_proves (by simp [Signed.proves, hout])⟩
  | committed source n destinationId storage reason hout hactive hspool hstorage =>
      have hlive : ∀ state, r.signed.outcome ≠ .lifecycle state := by simp [hout]
      have hlost : r.signed.lost = 0 := by simp [Signed.lost, hout]
      refine h.enter (h.books.same hlt rfl rfl (starts_false hlive) (by simp [Signed.entry, hout])
        (by simp [Signed.settles, hout]) rfl rfl) hlive ?_ h.spool ?_ rfl rfl rfl ?_ rfl
      · intro v
        rw [failing_cons_of_none (starts_false hlive) (by simp [Signed.fails, hout])
          (by simp [Signed.resolves, Signed.settles, hout])]
        exact h.failures v
      · rw [hlost, Nat.zero_add]
        rfl
      · intro hs
        refine ⟨hterminal, hactive, (h.spool hspool).2, ?_⟩
        have hnothing : lostRecords log = 0 := h.dropped.symm.trans (hstorage hs)
        have hle : lostSince log ≤ lostRecords log := lostSince_le
        have hproves : r.signed.proves = false := by simp [Signed.proves, hout]
        rw [lostSince, starts_false hlive, hproves, hlost]
        change 0 + lostSince log = 0
        omega
  | materialized j storage reason hout hstorage =>
      have hlive : ∀ state, r.signed.outcome ≠ .lifecycle state := by simp [hout]
      have hlost : r.signed.lost = 0 := by simp [Signed.lost, hout]
      refine h.enter (h.books.same hlt rfl rfl (starts_false hlive) (by simp [Signed.entry, hout])
        (by simp [Signed.settles, hout]) rfl rfl) hlive ?_ ?_ ?_ rfl rfl rfl ?_ rfl
      · intro v
        rw [mem_failing_resolved (v := j.appendRevision) (starts_false hlive) (by simp [Signed.fails, hout])
          (by simp [Signed.resolves, hout]), ← h.failures v]
        exact Finset.mem_erase
      · intro hs
        obtain ⟨hentries, hnone⟩ := h.spool hs
        refine ⟨hentries, ?_⟩
        change o.unavailableAppendRevisions.erase _ = ∅
        rw [hnone]
        rfl
      · rw [hlost, Nat.zero_add]
        rfl
      · intro hs
        obtain ⟨hactive, hnone⟩ := hstorage hs
        exact ⟨hterminal, hactive, hnone, lostSince_of_proves (by simp [Signed.proves, hout])⟩
  | acknowledged j storage reason hout hpending hstorage =>
      have hlive : ∀ state, r.signed.outcome ≠ .lifecycle state := by simp [hout]
      have hlost : r.signed.lost = 0 := by simp [Signed.lost, hout]
      refine h.enter (h.books.settled hlt rfl hterminal (starts_false hlive)
        (by simp [Signed.entry, hout]) (by simp [Signed.settles, hout, AppendJoin.pending])
        hpending rfl rfl) hlive ?_ ?_ ?_ rfl rfl rfl ?_ rfl
      · intro v
        rw [mem_failing_resolved (v := j.appendRevision) (starts_false hlive) (by simp [Signed.fails, hout])
          (by simp [Signed.resolves, Signed.settles, hout]), ← h.failures v]
        exact Finset.mem_erase
      · intro hs
        have hmem := (o.pending.mem_entries _ _).mpr hpending
        rw [(h.spool hs).1] at hmem
        cases hmem
      · rw [hlost, Nat.zero_add]
        rfl
      · intro hs
        obtain ⟨hactive, hnone⟩ := hstorage hs
        exact ⟨hterminal, hactive, hnone, lostSince_of_proves (by simp [Signed.proves, hout])⟩
  | rejected f hout hkind happend =>
      have hlive : ∀ state, r.signed.outcome ≠ .lifecycle state := by simp [hout]
      have hretained : f.kind.retained = false := by rw [hkind]; rfl
      refine h.enter (h.books.same hlt rfl rfl (starts_false hlive) (by simp [Signed.entry, hout])
        (by simp [Signed.settles, hout, happend]) rfl rfl) hlive ?_ h.spool ?_ rfl rfl rfl
        (fun hs => (nomatch hs)) rfl
      · intro v
        rw [failing_cons_of_none (starts_false hlive) (by simp [Signed.fails, hout, happend])
          (by simp [Signed.resolves, Signed.settles, hout, happend])]
        exact h.failures v
      · simp only [Signed.lost, hout, hretained]
        exact Nat.add_comm _ _
  | deferred f appendId p hout hretained happend hpending =>
      have hlive : ∀ state, r.signed.outcome ≠ .lifecycle state := by simp [hout]
      refine h.enter (h.books.same hlt rfl rfl (starts_false hlive) (by simp [Signed.entry, hout])
        (by simp [Signed.settles, hout, hretained]) rfl rfl) hlive ?_ ?_ ?_ rfl rfl rfl
        (fun hs => (nomatch hs)) rfl
      · intro v
        have hfails : r.signed.fails = some p.revision := by
          simp [Signed.fails, hout, hretained, happend]
        have hresolves : r.signed.resolves = none := by
          simp [Signed.resolves, Signed.settles, hout, hretained]
        have hfailing : failing (r.signed :: log) = p.revision :: failing log := by
          rw [failing_cons (starts_false hlive), hfails, hresolves]
          exact congrArg (_ :: ·) (List.filter_eq_self.mpr fun _ _ => rfl)
        rw [hfailing, List.mem_cons, ← h.failures v]
        exact Finset.mem_insert
      · intro hs
        have hmem := (o.pending.mem_entries _ _).mpr hpending
        rw [(h.spool hs).1] at hmem
        cases hmem
      · simp only [Signed.lost, hout, hretained]
        exact (Nat.zero_add _).symm
  | lost f appendId p hout hretained happend hpending hcount =>
      have hlive : ∀ state, r.signed.outcome ≠ .lifecycle state := by simp [hout]
      refine h.enter (h.books.settled hlt rfl hterminal (starts_false hlive)
        (by simp [Signed.entry, hout]) (by simp [Signed.settles, hout, hretained, happend])
        hpending rfl rfl) hlive ?_ ?_ ?_ rfl rfl rfl (fun hs => (nomatch hs)) rfl
      · intro v
        rw [mem_failing_resolved (v := p.revision) (starts_false hlive)
          (by simp [Signed.fails, hout, hretained])
          (by simp [Signed.resolves, Signed.settles, hout, hretained, happend]), ← h.failures v]
        exact Finset.mem_erase
      · intro hs
        have hmem := (o.pending.mem_entries _ _).mpr hpending
        rw [(h.spool hs).1] at hmem
        cases hmem
      · simp only [Signed.lost, hout, hretained]
        exact Nat.add_comm _ _
  | archived archiveRevision destinationId storage reason hout hactive hstorage =>
      have hlive : ∀ state, r.signed.outcome ≠ .lifecycle state := by simp [hout]
      have hlost : r.signed.lost = 0 := by simp [Signed.lost, hout]
      refine h.enter (h.books.same hlt rfl rfl (starts_false hlive) (by simp [Signed.entry, hout])
        (by simp [Signed.settles, hout]) rfl rfl) hlive ?_ h.spool ?_ rfl rfl rfl ?_ rfl
      · intro v
        rw [failing_cons_of_none (starts_false hlive) (by simp [Signed.fails, hout])
          (by simp [Signed.resolves, Signed.settles, hout])]
        exact h.failures v
      · rw [hlost, Nat.zero_add]
        rfl
      · intro hs
        exact ⟨hterminal, hactive, hstorage hs, lostSince_of_proves (by simp [Signed.proves, hout])⟩

theorem Tracks.exhausts (h : Tracks log o) (hlt : o.receiptRevision < r.signed.revision.value)
    (he : Exhausts o r o') : Tracks log o' := by
  obtain ⟨hunavailable, hactive, hepoch, hused, hspool⟩ := he.rest
  refine ⟨⟨?_, ?_, ?_, ?_⟩, ?_, ?_, ?_, ?_, ?_, ?_, ?_, he.snapshot⟩
  · rw [he.pending]
    exact h.books.entries
  · intro hnone
    have hsome := he.terminal
    rw [hnone] at hsome
    cases hsome
  · rw [he.pending]
    exact h.books.incarnations
  · intro p hp
    rw [he.pending] at hp
    have hle := h.books.past p hp
    rw [he.receiptRevision]
    omega
  · rw [hunavailable]
    exact h.failures
  · rw [hspool, he.pending, hunavailable]
    exact h.spool
  · rw [he.dropped]
    exact h.dropped
  · rw [hactive]
    exact h.active
  · rw [hepoch]
    exact h.epoch
  · rw [hused]
    exact h.used
  · intro hs
    rw [he.storage] at hs
    cases hs

end Invariant

section Runs

variable [DecidableEq τ] (A : OutcomeAuthority τ)

/-- The owner and the receipts that it has accepted, after one call. -/
def call (x : Owner τ × List Signed) (r : Receipt τ) : Owner τ × List Signed :=
  ((x.1.feed A r).1,
    if (x.1.feed A r).2 = none ∧ x.1.receiptRevision < r.signed.revision.value then
      r.signed :: x.2
    else x.2)

/-- The owner and the receipts that it has accepted, after calls with some receipts. -/
def fed (ownerId : String) (rs : List (Receipt τ)) : Owner τ × List Signed :=
  rs.foldl (call A) (Owner.init A ownerId, [])

variable {A}

theorem Tracks.call {x : Owner τ × List Signed} (h : Tracks x.2 x.1) (r : Receipt τ) :
    Tracks (Storage.call A x r).2 (Storage.call A x r).1 := by
  have hcourse := feed_cases (A := A) (r := r) h.books.counted
  unfold Storage.call
  generalize x.1.feed A r = y at hcourse
  cases hcourse with
  | refused e =>
      rw [if_neg (fun hn => nomatch hn.1)]
      exact h
  | repeated _ heq _ _ =>
      rw [if_neg (fun hn => absurd hn.2 (by omega))]
      exact h
  | accepted _ hlt hterminal haccepts =>
      rw [if_pos ⟨rfl, hlt⟩]
      exact h.accepts hterminal hlt haccepts
  | exhausted e hlt hexhausts =>
      rw [if_neg (fun hn => nomatch hn.1)]
      exact h.exhausts hlt hexhausts

omit [DecidableEq τ] in
theorem tracks_init (ownerId : String) : Tracks [] (Owner.init A ownerId) := by
  refine ⟨⟨rfl, fun _ => rfl, List.nodup_nil, fun _ hp => (nomatch hp)⟩, ?_, fun _ => ⟨rfl, rfl⟩,
    rfl, rfl, rfl, ?_, fun hs => (nomatch hs), rfl⟩
  · intro v
    exact ⟨fun hv => absurd hv (Finset.notMem_empty v), fun hv => (nomatch hv)⟩
  · intro e
    constructor
    · exact fun he => absurd he (Finset.notMem_empty e)
    · rintro ⟨_, hs, _⟩
      cases hs

theorem tracks_fed (ownerId : String) (rs : List (Receipt τ)) :
    Tracks (fed A ownerId rs).2 (fed A ownerId rs).1 := by
  unfold fed
  have hall : ∀ (rs : List (Receipt τ)) (x : Owner τ × List Signed), Tracks x.2 x.1 →
      Tracks (rs.foldl (Storage.call A) x).2 (rs.foldl (Storage.call A) x).1 := by
    intro rs
    induction rs with
    | nil => exact fun _ h => h
    | cons r rs ih => exact fun x h => ih _ (h.call r)
  exact hall rs _ (tracks_init ownerId)

structure Presents (log : List Signed) (o : Owner τ) : Prop where
  pending : o.terminalUnavailableReason = none → o.snapshot.pendingCount = pendingRecords log
  lost : o.snapshot.droppedOrRejectedCount = lostRecords log
  available : o.snapshot.storage = .available →
    live log = true ∧ failing log = [] ∧ lostSince log = 0
  epoch : o.snapshot.recordingEpochId = epochOf log

omit [DecidableEq τ] in
theorem Tracks.presents {o : Owner τ} {log : List Signed} (h : Tracks log o) :
    Presents log o := by
  have hsnapshot := h.snapshot
  refine ⟨?_, ?_, ?_, ?_⟩
  · intro hterminal
    rw [hsnapshot]
    exact h.books.count hterminal
  · rw [hsnapshot]
    exact h.dropped
  · intro hs
    rw [hsnapshot] at hs
    obtain ⟨_, hactive, hnone, hlost⟩ := h.proved hs
    refine ⟨h.active.symm.trans hactive, List.eq_nil_iff_forall_not_mem.mpr ?_, hlost⟩
    intro v hv
    have hmem := (h.failures v).mpr hv
    rw [hnone] at hmem
    exact Finset.notMem_empty v hmem
  · rw [hsnapshot]
    exact h.epoch

variable (A)

/-- What a receipt that was accepted makes of further receipts. -/
structure Remembers (o : Owner τ) (r : Receipt τ) : Prop where
  same : o.feed A r = (o, none)
  regression : ∀ r', r'.signed.revision.value < r.signed.revision.value →
    ∃ e, o.feed A r' = (o, some e)
  /-- a different receipt of the revision is refused, unless the signatures collide -/
  equivocation : ∀ r', r'.signed.revision = r.signed.revision → r' ≠ r →
    (∃ e, o.feed A r' = (o, some e)) ∨
      (r'.signed ≠ r.signed ∧ A.token r'.signed = A.token r.signed ∧ o.feed A r' = (o, none))

variable {A}

theorem feed_error {o : Owner τ} {r : Receipt τ} {e : Refusal} (h : o.preflight A r = .error e) :
    o.feed A r = (o, some e) := by
  unfold Owner.feed
  rw [h]

theorem preflight_old {o : Owner τ} {r : Receipt τ}
    (h : r.signed.revision.value < o.receiptRevision ∨
      r.signed.revision.value = o.receiptRevision ∧
        (r = A.issue r.signed → o.lastToken ≠ some r.provenance)) :
    ∃ e, o.preflight A r = .error e := by
  unfold Owner.preflight
  by_cases hverifies : A.verifies r = false
  · rw [if_pos hverifies]
    exact ⟨_, rfl⟩
  rw [if_neg hverifies]
  by_cases hlt : r.signed.revision.value < o.receiptRevision
  · rw [if_pos hlt]
    exact ⟨_, rfl⟩
  rw [if_neg hlt]
  rcases h with hlt' | ⟨heq, htoken⟩
  · exact absurd hlt' hlt
  · have hdiffers : some r.provenance ≠ o.lastToken := fun hsame =>
      htoken (OutcomeAuthority.verifies_iff.mp (Bool.not_eq_false _ ▸ hverifies)) hsame.symm
    rw [if_pos heq, if_pos hdiffers]
    exact ⟨_, rfl⟩

theorem feed_repeated {o : Owner τ} {r : Receipt τ} (hissued : r = A.issue r.signed)
    (hrevision : r.signed.revision.value = o.receiptRevision)
    (htoken : o.lastToken = some r.provenance) (hterminal : o.terminalUnavailableReason = none) :
    o.feed A r = (o, none) := by
  have hok : o.preflight A r = .ok false := by
    unfold Owner.preflight
    rw [OutcomeAuthority.verifies_iff.mpr hissued, if_neg (fun h => nomatch h), hrevision,
      if_neg (Nat.lt_irrefl _), if_pos rfl, htoken, if_neg (fun h => h rfl)]
  unfold Owner.feed
  rw [hok, hterminal]
  rfl

theorem remembers_of_last {o : Owner τ} {r : Receipt τ}
    (hissued : r = A.issue r.signed) (hrevision : o.receiptRevision = r.signed.revision.value)
    (htoken : o.lastToken = some r.provenance) (hterminal : o.terminalUnavailableReason = none) :
    Remembers A o r := by
  refine ⟨feed_repeated hissued hrevision.symm htoken hterminal, ?_, ?_⟩
  · intro r' hlt
    obtain ⟨e, he⟩ := preflight_old (A := A) (o := o) (r := r') (.inl (hrevision ▸ hlt))
    exact ⟨e, feed_error he⟩
  · intro r' heq hne
    by_cases hcollides : r'.signed ≠ r.signed ∧ r' = A.issue r'.signed ∧
        A.token r'.signed = A.token r.signed
    · obtain ⟨hsigned, hissued', hsame⟩ := hcollides
      have htoken' : r'.provenance = r.provenance := by
        rw [hissued', hissued]
        exact hsame
      exact .inr ⟨hsigned, hsame, feed_repeated hissued' (by rw [heq, hrevision])
        (by rw [htoken, htoken']) hterminal⟩
    have hother : r' = A.issue r'.signed → o.lastToken ≠ some r'.provenance := by
      intro hissued' hsame
      rw [htoken, hissued, hissued'] at hsame
      have hsame : A.token r.signed = A.token r'.signed := Option.some.inj hsame
      by_cases hsigned : r'.signed = r.signed
      · exact hne (by rw [hissued, hissued', hsigned])
      · exact hcollides ⟨hsigned, hissued', hsame.symm⟩
    obtain ⟨e, he⟩ := preflight_old (A := A) (o := o) (r := r')
      (.inr ⟨by rw [heq, hrevision], hother⟩)
    exact .inl ⟨e, feed_error he⟩

theorem remembers_of_feed {o : Owner τ} {log : List Signed}
    (h : Tracks log o) {r : Receipt τ} (hok : (o.feed A r).2 = none) :
    Remembers A (o.feed A r).1 r := by
  have hcourse := feed_cases (A := A) (r := r) h.books.counted
  generalize o.feed A r = y at hcourse hok
  cases hcourse with
  | refused e => cases hok
  | repeated hissued heq htoken hterminal =>
      exact remembers_of_last hissued heq.symm htoken hterminal
  | accepted hissued _ hterminal haccepts =>
      cases haccepts with
      | _ => exact remembers_of_last hissued rfl rfl hterminal
  | exhausted e _ _ => cases hok

theorem unchanged_of_raised {o : Owner τ} {log : List Signed} (h : Tracks log o) {r : Receipt τ}
    (hraised : (o.feed A r).2 ≠ none) :
    (o.feed A r).1 = o ∨ Exhausts o r (o.feed A r).1 := by
  have hcourse := feed_cases (A := A) (r := r) h.books.counted
  generalize o.feed A r = y at hcourse hraised
  cases hcourse with
  | refused e => exact .inl rfl
  | repeated _ _ _ _ => exact absurd rfl hraised
  | accepted _ _ _ _ => exact absurd rfl hraised
  | exhausted e _ hexhausts => exact .inr hexhausts

omit [DecidableEq τ] in
theorem Accepts.fresh {o o' : Owner τ} {r : Receipt τ} (h : Accepts o r o')
    (hstarts : r.signed.starts = true) : r.signed.recordingEpochId ∉ o.usedEpochIds := by
  have hout : r.signed.outcome = .lifecycle .started := of_decide_eq_true hstarts
  cases h with
  | started reason _ _ _ hfresh => exact hfresh
  | ended state _ hout' hne => exact absurd (Outcome.lifecycle.inj (hout.symm.trans hout')).symm hne
  | appended _ _ _ _ _ hout' => exact nomatch hout.symm.trans hout'
  | committed _ _ _ _ _ hout' => exact nomatch hout.symm.trans hout'
  | materialized _ _ _ hout' => exact nomatch hout.symm.trans hout'
  | acknowledged _ _ _ hout' => exact nomatch hout.symm.trans hout'
  | rejected _ hout' => exact nomatch hout.symm.trans hout'
  | deferred _ _ _ hout' => exact nomatch hout.symm.trans hout'
  | lost _ _ _ hout' => exact nomatch hout.symm.trans hout'
  | archived _ _ _ _ hout' => exact nomatch hout.symm.trans hout'

theorem used_refused {o : Owner τ} {log : List Signed} (h : Tracks log o) {r : Receipt τ}
    (hstarts : r.signed.starts = true)
    (hused : ∃ s ∈ log, s.starts = true ∧ s.recordingEpochId = r.signed.recordingEpochId) :
    (o.feed A r).1 = o ∧
      (o.receiptRevision < r.signed.revision.value → (o.feed A r).2 ≠ none) := by
  have hcourse := feed_cases (A := A) (r := r) h.books.counted
  generalize o.feed A r = y at hcourse
  cases hcourse with
  | refused e => exact ⟨rfl, fun _ hn => nomatch hn⟩
  | repeated _ heq _ _ => exact ⟨rfl, fun hlt => absurd hlt (by omega)⟩
  | accepted _ _ _ haccepts =>
      exact absurd ((h.used _).mpr hused) (haccepts.fresh hstarts)
  | exhausted e _ hexhausts => exact absurd (of_decide_eq_true hstarts) (hexhausts.cause _)

omit [DecidableEq τ] in
theorem feedNew_other {o : Owner τ} {r : Receipt τ} (hstarts : r.signed.starts = false)
    (hepoch : some r.signed.recordingEpochId ≠ o.epoch) : (o.feedNew r).1 = o := by
  have hmatches (next : Fed τ) : (o.epochMatches r next).1 = o := by
    unfold Owner.epochMatches
    rw [if_pos hepoch]
    rfl
  unfold Owner.feedNew
  cases hout : r.signed.outcome with
  | lifecycle state =>
      have hne : state ≠ .started := by
        rintro rfl
        exact of_decide_eq_false hstarts hout
      dsimp only
      unfold Owner.feedLifecycle
      rw [if_neg hne]
      exact hmatches _
  | _ => exact hmatches _

theorem other_refused {o : Owner τ} {r : Receipt τ} (hstarts : r.signed.starts = false)
    (hepoch : some r.signed.recordingEpochId ≠ o.epoch) : (o.feed A r).1 = o := by
  unfold Owner.feed
  split
  · rfl
  · split
    · rfl
    · split
      · exact feedNew_other hstarts hepoch
      · rfl

theorem exhausted_refused {o : Owner τ} (h : o.terminalUnavailableReason.isSome = true)
    (r : Receipt τ) : (o.feed A r).1 = o ∧ (o.feed A r).2 ≠ none := by
  obtain ⟨reason, hreason⟩ := Option.isSome_iff_exists.mp h
  unfold Owner.feed
  rw [hreason]
  cases o.preflight A r with
  | error e => exact ⟨rfl, fun hn => nomatch hn⟩
  | ok isNew => exact ⟨rfl, fun hn => nomatch hn⟩

/-- Whatever the owner is fed, it presents what it has accepted; a call that raises
changes nothing or exhausts a capacity for good; and receipts are not fed twice, unless two
signatures collide. -/
theorem owner_tells_truth (ownerId : String) (rs : List (Receipt τ)) :
    Presents (fed A ownerId rs).2 (fed A ownerId rs).1 ∧
      (∀ r, ((fed A ownerId rs).1.feed A r).2 ≠ none →
        ((fed A ownerId rs).1.feed A r).1 = (fed A ownerId rs).1 ∨
          Exhausts (fed A ownerId rs).1 r ((fed A ownerId rs).1.feed A r).1) ∧
      (∀ r, (fed A ownerId rs).1.terminalUnavailableReason.isSome = true →
        ((fed A ownerId rs).1.feed A r).1 = (fed A ownerId rs).1 ∧
          ((fed A ownerId rs).1.feed A r).2 ≠ none) ∧
      (∀ r, ((fed A ownerId rs).1.feed A r).2 = none →
        Remembers A ((fed A ownerId rs).1.feed A r).1 r) ∧
      (∀ r, r.signed.starts = true →
        (∃ s ∈ (fed A ownerId rs).2, s.starts = true ∧
          s.recordingEpochId = r.signed.recordingEpochId) →
        ((fed A ownerId rs).1.feed A r).1 = (fed A ownerId rs).1 ∧
          ((fed A ownerId rs).1.receiptRevision < r.signed.revision.value →
            ((fed A ownerId rs).1.feed A r).2 ≠ none)) ∧
      (∀ r, r.signed.starts = false →
        some r.signed.recordingEpochId ≠ epochOf (fed A ownerId rs).2 →
          ((fed A ownerId rs).1.feed A r).1 = (fed A ownerId rs).1) := by
  have htracks := tracks_fed (A := A) ownerId rs
  refine ⟨htracks.presents, fun r => unchanged_of_raised htracks,
    fun r hterminal => exhausted_refused hterminal r, fun r => remembers_of_feed htracks,
    fun r hstarts hused => used_refused htracks hstarts hused, ?_⟩
  intro r hstarts hepoch
  rw [← htracks.epoch] at hepoch
  exact other_refused hstarts hepoch

/-- An authority whose signatures are what they sign. -/
def plainAuthority : OutcomeAuthority Signed := ⟨"feed", "0123456789abcdef0123456789abcdef", id⟩

def Count.ofFin (n : Fin 100) : Count where
  value := n + 1
  positive := Nat.le_add_left 1 n
  bounded := Nat.le_trans n.isLt (by decide)

/-- An epoch starts, three records are rejected, and an append is proven. -/
def rejectedThenAppended : List (Receipt Signed) :=
  [plainAuthority.issue ⟨.ofFin 0, "epoch-1", .lifecycle .started⟩,
    plainAuthority.issue ⟨.ofFin 1, "epoch-1",
      .failure ⟨"failure-1", .rejection, none, "rejected", .ofFin 2, fun h => absurd rfl h⟩⟩,
    plainAuthority.issue ⟨.ofFin 2, "epoch-1", .durableAppend "append-1" "db" (.ofFin 0)⟩]

theorem owner_tells_truth_appended :
    Presents (fed plainAuthority "owner" rejectedThenAppended).2
        (fed plainAuthority "owner" rejectedThenAppended).1 ∧
      (fed plainAuthority "owner" rejectedThenAppended).2.length = 3 :=
  ⟨(owner_tells_truth (A := plainAuthority) "owner" rejectedThenAppended).1, by rfl⟩

/-- An append makes the storage available although records of the epoch are lost. -/
theorem available_after_loss :
    ¬ ∀ rs, (fed plainAuthority "owner" rs).1.snapshot.storage = .available →
      lostRecords (fed plainAuthority "owner" rs).2 = 0 := by
  intro h
  have hlost := h rejectedThenAppended (by rfl)
  have hthree : lostRecords (fed plainAuthority "owner" rejectedThenAppended).2 = 3 := by rfl
  rw [hthree] at hlost
  cases hlost

end Runs

end Storage
end CryoDaq
