import CryoDaq.Recording.FeedInvariant

/-!
# The calls of the feed

What each call leaves behind when it has room, also when it raises (`call_after`):
the epoch goes on as before or ends (`Next`), starts (`Started`), takes a commit
(`Commits`) or a rejection (`Rejects`).
-/

namespace CryoDaq
namespace Recording

open Storage

namespace Feed

variable {τ σ : Type} {cfg : Config τ σ} {f : Feed τ σ} [DecidableEq τ] [DecidableEq σ]

theorem terminalize_idle {lifecycle : OwnerLifecycle} (h : f.Sound cfg) (hidle : f.active = false) :
    Next cfg f (f.terminalize cfg lifecycle).1 ∧
      (f.terminalize cfg lifecycle).1.active = false := by
  unfold terminalize requirePersistence
  split
  · obtain ⟨hlossless, hstorage, hterminal⟩ := h.idle hidle
    have hclose := @closePersistence_spec _ _ cfg f _ h.recording h.persistenceRevision
      (by simp [hlossless])
    rw [liveEpoch_idle hidle]
    dsimp only
    refine ⟨⟨hclose.2.next h.presented h.pending h.spool h.receiptRevision h.revision h.source
      h.failures (h.active.trans hidle) hstorage hterminal, hclose.2.moves, ?_⟩,
      hclose.2.inactive⟩
    intro hactive
    rw [hclose.2.inactive] at hactive
    cases hactive
  · exact ⟨.refl h, hidle⟩

theorem terminalize_returns {lifecycle : OwnerLifecycle}
    (h : (f.terminalize cfg lifecycle).2 = none) :
    (f.terminalize cfg lifecycle).1.active = false := by
  have hclose : ∀ g : Feed τ σ, (g.closePersistence cfg).1.active = false := by
    intro g
    unfold closePersistence feedRecordingOwner
    dsimp only
    split
    · split <;> rfl
    · rfl
  unfold terminalize requirePersistence at h ⊢
  split
  · rename_i hwriter
    rw [if_pos hwriter] at h
    split
    · rename_i epoch hlive
      rw [hlive] at h
      dsimp only at h ⊢
      unfold Result.andThen at h ⊢
      split
      · rename_i e he
        rw [he] at h
        cases h
      · exact hclose _
    · exact hclose _
  · rename_i hwriter
    rw [if_neg hwriter] at h
    cases h

theorem terminalize_next {lifecycle : OwnerLifecycle} (h : f.Sound cfg) (hroom : f.Room)
    (hstate : lifecycle ≠ .started) : Next cfg f (f.terminalize cfg lifecycle).1 := by
  cases hactive : f.active with
  | false => exact (terminalize_idle h hactive).1
  | true =>
      obtain ⟨e, hepoch, hpepoch, htext⟩ := h.live hactive
      unfold terminalize requirePersistence
      split
      · rw [liveEpoch_live hactive hepoch]
        dsimp only
        have hle : f.outcomeRevision + 1 ≤ maxNonnegativeInt := by
          have := hroom.outcome
          omega
        have hprev : f.persistenceOwner.revision < maxNonnegativeInt := by
          have := h.revision
          omega
        rw [signLifecycle_eq hle htext]
        unfold feedPersistenceOwner
        dsimp only
        cases hterminal : f.persistenceOwner.terminalUnavailableReason with
        | some reason =>
            have hfeed := @feed_terminal _ _ cfg.persistenceAuthority f.persistenceOwner
              ⟨⟨f.outcomeRevision + 1, Nat.le_add_left 1 _, hle⟩, e, .lifecycle lifecycle⟩ reason
              (Nat.lt_succ_of_le h.receiptRevision) hprev hterminal
            have hsame : f.advance.persistenceOwner = f.persistenceOwner := rfl
            rw [hsame, hfeed]
            exact .advance h
        | none =>
            obtain ⟨reason, hfeed⟩ := @feed_ended _ _ cfg.persistenceAuthority f.persistenceOwner
              ⟨f.outcomeRevision + 1, Nat.le_add_left 1 _, hle⟩ e lifecycle
              (Nat.lt_succ_of_le h.receiptRevision) hprev hterminal hpepoch hstate
            have hsame : f.advance.persistenceOwner = f.persistenceOwner := rfl
            rw [hsame, hfeed]
            let told : Owner τ := (endEpoch f.persistenceOwner).accept
              (cfg.persistenceAuthority.issue
                ⟨⟨f.outcomeRevision + 1, Nat.le_add_left 1 _, hle⟩, e, .lifecycle lifecycle⟩) reason
            have hstorage : told.storage ≠ .available := by simp [told, endEpoch, Owner.accept]
            have hleft : f.outcomeRevision + 1 + 1 ≤ maxNonnegativeInt ∧
                f.owner.revision < maxNonnegativeInt := by
              have := hroom.owner
              exact ⟨hroom.outcome, by omega⟩
            have hclose := @closePersistence_spec _ _ cfg
              { f.advance with persistenceOwner := told } _ h.recording
              (h.persistenceRevision.trans (Nat.le_succ _)) fun _ => hleft
            refine ⟨?_, hclose.2.moves, ?_⟩
            · refine hclose.2.next ⟨_, rfl⟩ h.pending h.spool le_rfl
                (Nat.succ_le_succ h.revision) h.source ?_ rfl hstorage hterminal
              exact h.advance.failures
            · intro hlive
              have hinactive := hclose.2.inactive
              dsimp only [Result.andThen] at hlive
              rw [hinactive] at hlive
              cases hlive
      · exact .refl h

/-- What a start that returns leaves behind. -/
structure Started (cfg : Config τ σ) (f g : Feed τ σ) : Prop where
  sound : g.Sound cfg
  moves : f.owner.Moves g.owner
  active : g.active = true
  clean : ¬ g.Spoiled
  fresh : g.lastCommitAt = none

theorem persistenceStarted_spec {epoch : String} (h : f.Sound cfg) (hroom : f.Room) :
    ((f.persistenceStarted cfg epoch).2 ≠ none ∧
        Next cfg f (f.persistenceStarted cfg epoch).1) ∨
      ((f.persistenceStarted cfg epoch).2 = none ∧
        Started cfg f (f.persistenceStarted cfg epoch).1) := by
  unfold persistenceStarted requirePersistence
  split
  · split
    · have hraising := @andThen_raising _ _ (f.terminalize cfg .cancellationAmbiguous)
        (fun g => g.raising "direct persistence epoch is already active")
        fun g => ⟨rfl, by simp [raising]⟩
      refine .inl ⟨hraising.2, ?_⟩
      rw [hraising.1]
      exact terminalize_next h hroom (by simp)
    · rename_i hactive
      have hidle : f.active = false := by simpa using hactive
      obtain ⟨hlossless, _, hterminal⟩ := h.idle hidle
      have hrefused : ∀ e, ((Result.andThen (f.advance.terminalize cfg .cancellationAmbiguous)
          fun g => (g, some e)).2 ≠ none ∧ Next cfg f
            (Result.andThen (f.advance.terminalize cfg .cancellationAmbiguous)
              fun g => (g, some e)).1) := by
        intro e
        have hraising := @andThen_raising _ _ (f.advance.terminalize cfg .cancellationAmbiguous)
          (fun g => (g, some e)) fun g => ⟨rfl, by simp⟩
        obtain ⟨hnext, hinactive⟩ := @terminalize_idle _ _ cfg f.advance _ _ .cancellationAmbiguous
          h.advance hidle
        refine ⟨hraising.2, ?_⟩
        rw [hraising.1]
        refine ⟨hnext.sound, hnext.moves, fun hlive => ?_⟩
        rw [hinactive] at hlive
        cases hlive
      dsimp only
      cases hsign : signLifecycle cfg.texts cfg.persistenceAuthority (f.outcomeRevision + 1) epoch
          .started with
      | error e => exact .inl (hrefused e)
      | ok receipt =>
          obtain ⟨count, rfl, hcount, htext⟩ := signLifecycle_ok hsign
          rw [succ_toNat] at hcount
          have hnew : f.persistenceOwner.receiptRevision < count.value := by
            rw [hcount]
            exact Nat.lt_succ_of_le h.receiptRevision
          have hsame : f.advance.persistenceOwner = f.persistenceOwner := rfl
          unfold feedPersistenceOwner
          dsimp only
          rw [hsame]
          rcases @feed_started _ _ cfg.persistenceAuthority f.persistenceOwner count epoch hnew
            (hroom.owner_lt h) hterminal (h.active.trans hidle) h.pending with
            ⟨e, hfeed⟩ | ⟨reason, hfeed⟩
          · rw [hfeed]
            exact .inl (hrefused e)
          · have hclean : ∀ p : Owner τ,
                p.terminalUnavailableReason = f.persistenceOwner.terminalUnavailableReason →
                ¬ Spoiled { f.advance with
                  persistenceOwner := p
                  epoch := some epoch
                  active := true
                  latched := false
                  lastCommitAt := none } :=
              fun p hp => not_or.mpr ⟨by simp, not_not.mpr (hp.trans hterminal)⟩
            rw [hfeed]
            refine .inr ⟨rfl, ⟨h.recording, ⟨_, rfl⟩, h.pending, rfl, ?_,
              Nat.succ_le_succ h.revision, h.persistenceRevision.trans (Nat.le_succ _),
              Nat.zero_le _, h.advance.failures, rfl,
              by simp, fun _ => ⟨epoch, rfl, rfl, htext⟩, fun _ _ => ⟨rfl, ?_⟩,
              fun _ hspoiled => absurd hspoiled (hclean _ rfl), ?_⟩, .refl _, rfl, hclean _ rfl,
              rfl⟩
            · exact hcount.le
            · simp [advance, hlossless, startEpoch, Owner.accept]
            · intro hloss
              have hloss' : f.owner.persistenceLossless = true := hloss
              rw [hlossless] at hloss'
              cases hloss'
  · exact .inl ⟨by simp, .refl h⟩

theorem persistenceCommitted_spec {receipt : CommitReceipt} {clock : Timestamp} (h : f.Sound cfg)
    (hroom : f.Room) :
    Next cfg f (f.persistenceCommitted cfg receipt clock).1 ∨
      Commits cfg f (f.persistenceCommitted cfg receipt clock).1 clock := by
  unfold persistenceCommitted requirePersistence
  split
  · cases hactive : f.active with
    | false =>
        rw [liveEpoch_idle hactive]
        exact .inl (.refl h)
    | true =>
        obtain ⟨epoch, hlive, hepoch, htext⟩ := h.live hactive
        rw [liveEpoch_live hactive hlive]
        dsimp only
        split
        · exact .inl (.refl h)
        · split
          · exact .inl (.refl h)
          · split
            · exact .inl (.refl h)
            · split
              · have hraising := @andThen_raising _ _ (f.terminalize cfg .cancellationAmbiguous)
                  (fun g => g.raising "acquisition epoch does not match direct persistence epoch")
                  fun g => ⟨rfl, by simp [raising]⟩
                rw [hraising.1]
                exact .inl (terminalize_next h hroom (by simp))
              · rename_i hregressed hsame hacquisition
                have hsource : f.sourceRevision < receipt.commitRevision := by omega
                obtain ⟨reason, hsnapshot⟩ := h.recording.presented
                rw [hsnapshot] at hacquisition
                have hacq : f.owner.acquisitionEpochId = some epoch := not_not.mp hacquisition
                cases hsign : signDirectCommit cfg.texts cfg.persistenceAuthority
                    (f.outcomeRevision + 1) epoch receipt.commitRevision "descriptor-sqlite"
                    receipt.entries with
                | error e => exact .inl (.advance h)
                | ok signed =>
                    obtain ⟨count, source, records, rfl, hcount, hvalue⟩ :=
                      signDirectCommit_ok hsign
                    rw [succ_toNat] at hcount
                    rw [Int.toNat_natCast] at hvalue
                    have hnew : f.persistenceOwner.receiptRevision < count.value := by
                      rw [hcount]
                      exact Nat.lt_succ_of_le h.receiptRevision
                    have howner : f.advance.persistenceOwner = f.persistenceOwner := rfl
                    unfold feedPersistenceOwner
                    dsimp only
                    rw [howner]
                    cases hterminal : f.persistenceOwner.terminalUnavailableReason with
                    | some reason =>
                        rw [feed_terminal hnew (hroom.owner_lt h) hterminal]
                        exact .inl (.advance h)
                    | none =>
                        have hdirect : f.persistenceOwner.directCommitRevision < source.value := by
                          have := h.source
                          omega
                        obtain ⟨reason, hfeed⟩ := @feed_directCommit _ _ cfg.persistenceAuthority
                          f.persistenceOwner count epoch source records "descriptor-sqlite" hnew
                          (hroom.owner_lt h) hterminal hepoch (h.active.trans hactive) h.spool
                          hdirect
                        rw [hfeed]
                        rw [hvalue] at hdirect
                        exact .inr (@recordCommit_spec τ σ cfg f _ epoch receipt.commitRevision
                          clock _ reason _ h hroom hactive hepoch hlive htext hacq hdirect hterminal
                          hcount
                          (by rw [hvalue]))
  · exact .inl (.refl h)

/-- Whether a rejection is reported: its arguments are in their bounds. -/
def reports (cfg : Config τ σ) (f : Feed τ σ) (recordCount : ℤ) (reason : String) : Bool :=
  cfg.hasWriter && decide (1 ≤ recordCount) && f.liveEpoch.any fun epoch =>
    (signRejection cfg.texts cfg.persistenceAuthority (f.outcomeRevision + 1) epoch
      (rejectionId (f.outcomeRevision + 1)) reason recordCount).toOption.isSome

theorem persistenceRejected_spec {recordCount : ℤ} {reason : String} (h : f.Sound cfg)
    (hroom : f.Room) (hroomy : f.reports cfg recordCount reason = true → f.Roomy) :
    (f.reports cfg recordCount reason = false ∧
        Next cfg f (f.persistenceRejected cfg recordCount reason).1) ∨
      Rejects cfg f (f.persistenceRejected cfg recordCount reason).1 := by
  unfold persistenceRejected requirePersistence
  split
  · rename_i hwriter
    cases hactive : f.active with
    | false =>
        rw [liveEpoch_idle hactive]
        exact .inl ⟨by simp [reports, liveEpoch_idle hactive], .refl h⟩
    | true =>
        obtain ⟨epoch, hlive, hepoch, htext⟩ := h.live hactive
        rw [liveEpoch_live hactive hlive]
        dsimp only
        split
        · rename_i hcount
          exact .inl ⟨by simp [reports, not_le.mpr hcount], .refl h⟩
        · rename_i hcount
          have hname : "direct-rejection-" ++ toString (f.outcomeRevision + 1) =
              rejectionId (f.outcomeRevision + 1) := rfl
          rw [hname]
          cases hsign : signRejection cfg.texts cfg.persistenceAuthority (f.outcomeRevision + 1)
              epoch (rejectionId (f.outcomeRevision + 1)) reason recordCount with
          | error e =>
              refine .inl ⟨?_, .advance h⟩
              simp [reports, liveEpoch_live hactive hlive, hsign, Except.toOption]
          | ok signed =>
              have hreports : f.reports cfg recordCount reason = true := by
                simp only [reports, liveEpoch_live hactive hlive, hwriter, Option.any_some, hsign,
                  Except.toOption, Option.isSome_some, Bool.and_true, Bool.true_and,
                  decide_eq_true_eq]
                omega
              obtain ⟨count, fields, rfl, hvalue, hid, hkind, happend⟩ := signRejection_ok hsign
              rw [succ_toNat] at hvalue
              have hnew : f.persistenceOwner.receiptRevision < count.value := by
                rw [hvalue]
                exact Nat.lt_succ_of_le h.receiptRevision
              have howner : f.advance.persistenceOwner = f.persistenceOwner := rfl
              unfold feedPersistenceOwner
              dsimp only
              rw [howner]
              cases hterminal : f.persistenceOwner.terminalUnavailableReason with
              | some reason =>
                  rw [feed_terminal hnew (hroom.owner_lt h) hterminal]
                  have hspoiled : f.Spoiled := .inr (by simp [hterminal])
                  exact .inr ⟨h.advance, .refl _, hactive, hspoiled, rfl, rfl⟩
              | none =>
                  have hfresh : fields.failureId ∉ f.persistenceOwner.usedFailureIds := by
                    rw [hid]
                    exact h.fresh_rejectionId
                  rcases @feed_rejection _ _ cfg.persistenceAuthority f.persistenceOwner count epoch
                    fields hkind happend hnew (hroom.owner_lt h) hterminal hepoch
                    (h.active.trans hactive) hfresh with
                    ⟨_, reason, hfeed⟩ | ⟨hfull, reason, hfeed⟩
                  · rw [hfeed]
                    exact .inr (rejected_spec h hroom hactive hid fields.recordCount.positive hvalue
                      rfl)
                  · rw [hfeed]
                    exact .inr (exhausted_spec h hactive
                      (h.not_lossless_of_full hactive (hroomy hreports)
                        (hfull.imp_right fun hmany => by omega)) hvalue)
  · rename_i hwriter
    exact .inl ⟨by simp [reports, hwriter], .refl h⟩

theorem expire_next {clock : Timestamp} (h : f.Sound cfg) (hroom : f.Room) :
    Next cfg f (f.expire cfg clock).1 := by
  unfold expire
  split
  · exact terminalize_next h hroom (by simp)
  · exact .refl h

theorem expire_fresh {clock : Timestamp} (h : f.Sound cfg) (hroom : f.Room)
    (hreturns : (f.expire cfg clock).2 = none) :
    (f.expire cfg clock).1.owner.persistenceLossless = false ∨
      ((f.expire cfg clock).1 = f ∧ ∀ t, f.lastCommitAt = some t → clock - t ≤ cfg.freshness) := by
  have hnext := @expire_next _ _ cfg f _ _ clock h hroom
  unfold expire at hreturns hnext ⊢
  split
  · rename_i hexpired
    rw [if_pos hexpired] at hreturns hnext
    exact .inl (hnext.sound.idle (terminalize_returns hreturns)).1
  · rename_i hkept
    cases hactive : f.active with
    | false => exact .inl (h.idle hactive).1
    | true =>
        cases hlatched : f.latched with
        | true => exact .inl (h.spoiled hactive (.inl hlatched)).1
        | false =>
            refine .inr ⟨rfl, fun t ht => ?_⟩
            by_contra hlate
            have hexpired : f.lastCommitAt.any (fun t => cfg.freshness < clock - t) = true := by
              rw [ht]
              exact decide_eq_true (not_le.mp hlate)
            exact hkept ⟨hactive, hlatched, hexpired⟩

inductive After (cfg : Config τ σ) (f : Feed τ σ) (c : Call) (r : Result τ σ) : Prop
  | next (hnext : Next cfg f r.1)
      (hrejects : ∀ recordCount reason, c = .persistenceRejected recordCount reason →
        f.reports cfg recordCount reason = false)
      (hstarts : ∀ epoch, c = .persistenceStarted epoch → r.2 ≠ none)
  | started (epoch : String) (hcall : c = .persistenceStarted epoch) (hreturns : r.2 = none)
      (hstarted : Started cfg f r.1)
  | commits (receipt : CommitReceipt) (clock : Timestamp)
      (hcall : c = .persistenceCommitted receipt clock) (hcommits : Commits cfg f r.1 clock)
  | rejects (recordCount : ℤ) (reason : String)
      (hcall : c = .persistenceRejected recordCount reason) (hrejects : Rejects cfg f r.1)

omit [DecidableEq τ] [DecidableEq σ] in
theorem After.plain {c : Call} {r : Result τ σ} (hnext : Next cfg f r.1)
    (hrejects : ∀ recordCount reason, c ≠ .persistenceRejected recordCount reason)
    (hstarts : ∀ epoch, c ≠ .persistenceStarted epoch) : After cfg f c r :=
  .next hnext (fun n reason hc => absurd hc (hrejects n reason)) fun epoch hc =>
    absurd hc (hstarts epoch)

theorem call_after (c : Call) (h : f.Sound cfg) (hroom : f.Room)
    (hroomy : ∀ recordCount reason, c = .persistenceRejected recordCount reason →
      f.reports cfg recordCount reason = true → f.Roomy) :
    After cfg f c (f.call cfg c) := by
  cases c with
  | persistenceStarted epoch =>
      rcases @persistenceStarted_spec _ _ cfg f _ _ epoch h hroom with
        ⟨hraises, hnext⟩ | ⟨hreturns, hstarted⟩
      · exact .next hnext (by simp) fun _ _ => hraises
      · exact .started epoch rfl hreturns hstarted
  | persistenceCommitted receipt clock =>
      rcases @persistenceCommitted_spec _ _ cfg f _ _ receipt clock h hroom with hnext | hcommits
      · exact .plain hnext (by simp) (by simp)
      · exact .commits receipt clock rfl hcommits
  | persistenceRejected recordCount reason =>
      rcases @persistenceRejected_spec _ _ cfg f _ _ recordCount reason h hroom
        (hroomy recordCount reason rfl) with ⟨hsilent, hnext⟩ | hrejects
      · refine .next hnext (fun n text hc => ?_) (by simp)
        cases hc
        exact hsilent
      · exact .rejects recordCount reason rfl hrejects
  | persistenceAmbiguous => exact .plain (terminalize_next h hroom (by simp)) (by simp) (by simp)
  | persistenceStopped => exact .plain (terminalize_next h hroom (by simp)) (by simp) (by simp)
  | experimentActive revision experimentId experimentName phase =>
      exact .plain (experimentActive_next h) (by simp) (by simp)
  | experimentFinalized revision experimentId =>
      exact .plain (acceptSource_next h (requireActiveExperiment_next h (feedExperiment_next h)))
        (by simp) (by simp)
  | experimentAborted revision experimentId =>
      exact .plain (acceptSource_next h (requireActiveExperiment_next h (feedExperiment_next h)))
        (by simp) (by simp)
  | experimentInactive revision =>
      exact .plain (acceptSource_next h (feedExperiment_next h)) (by simp) (by simp)
  | acquisitionRunning sequence epoch =>
      exact .plain (acquisitionRunning_next h) (by simp) (by simp)
  | acquisitionStopped sequence =>
      exact .plain (acceptSource_next h (feedAcquisition_next h)) (by simp) (by simp)
  | acquisitionUnavailable sequence =>
      exact .plain (acceptSource_next h (feedAcquisition_next h)) (by simp) (by simp)
  | snapshot clock => exact .plain (expire_next h hroom) (by simp) (by simp)
  | persistenceSnapshot clock =>
      refine .plain ?_ (by simp) (by simp)
      have hnext := @expire_next _ _ cfg f _ _ clock h hroom
      have hcall : f.call cfg (.persistenceSnapshot clock) =
          Result.andThen (f.expire cfg clock) fun g => g.requirePersistence cfg (g, none) := rfl
      rw [hcall]
      unfold Result.andThen requirePersistence
      split
      · exact hnext
      · split <;> exact hnext

end Feed

end Recording
end CryoDaq
