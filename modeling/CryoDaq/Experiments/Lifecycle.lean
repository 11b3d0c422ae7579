import CryoDaq.Experiments.Apply

/-!
# Recovery and commitment of transitions

What the methods of the authority do under the lifecycle lock.

**Loading.**  A valid state file is loaded without a write, and the active
experiment of a settled directory is the record that its metadata holds.

**Recovery.**  `recoverTransition` leaves no journal, or raises and leaves the
manager quiet.

**Commitment.**  `commitTransition` leaves the manager quiet, however it ends.
-/

namespace CryoDaq
namespace Experiments

open Async Op

variable {δ κ : Type} {S : Setting δ κ} [DecidableEq δ]

section Loading

variable {c : Core δ κ} {d : Disk δ κ} {f : StateFile δ} {t : ℕ} {m : Mode}

theorem Chronicle.valid {h : List (Disk δ κ)} (hc : Chronicle S (d :: h))
    (hf : d.state = some f) : stateFileRefusal S f = none := by
  cases hc.status with
  | blank hblank =>
      rw [hblank.state] at hf
      cases hf
  | settled f' hsettled _ =>
      rw [hsettled.state] at hf
      obtain rfl := Option.some.inj hf
      exact hsettled.valid
  | pending q f' j _ hpending =>
      rcases hpending.state with hstate | ⟨info, rows, happlying, hdisk⟩
      · rw [hstate] at hf
        obtain rfl := Option.some.inj hf
        exact hpending.fits.settled.valid
      · rw [hdisk] at hf
        obtain rfl := Option.some.inj hf
        exact happlying.accepted.valid

omit [DecidableEq δ] in
@[simp] theorem loadedMemory_loadedMemory (f : StateFile δ) (n : Memory δ) :
    loadedMemory f (loadedMemory f n) = loadedMemory f n := rfl

theorem loadStateAuthority_locked {α : Type} {k : Unit → Op δ κ α}
    {Q : Except Failure α → Core δ κ → Prop} (hf : c.disk.state = some f)
    (hallow : m.Allows c (c.remember (loadedMemory f c.memory)))
    (h : Locked S t m (k ()) Q (c.remember (loadedMemory f c.memory))) :
    Locked S t m (loadStateAuthority S >>= k) Q c := by
  refine Locked.known ?_
  intro hchronicle
  refine Locked.seq (R := fun r c' => r = .ok () ∧ c' = c.remember (loadedMemory f c.memory))
    ?_ ?_ ?_
  · refine Locked.readThen ?_
    intro w hw
    rw [hw.disk, hf]
    dsimp only
    rw [hchronicle.valid hf]
    exact Locked.remember hallow ⟨rfl, rfl⟩
  · rintro _ c' ⟨_, rfl⟩
    exact h
  · rintro e c' ⟨he, _⟩
    cases he

theorem Settled.read (hs : Settled S d f) {id : String} (hid : f.activeExperimentId = some id) :
    ∃ i, readExperimentFromMetadata d id = .ok (some i) ∧ d.activeRecord f = some i ∧
      i.status = .running ∧ i.reload = i ∧ i.experimentId = id ∧ i ∈ d.rows := by
  obtain ⟨i, ⟨n, hn, hi⟩, hmem, rfl, hrunning, hnormal⟩ := hs.active id hid
  refine ⟨i, ?_, ?_, hrunning, hnormal.reloaded, rfl, hmem⟩
  · unfold readExperimentFromMetadata
    rw [hn]
    dsimp only
    rw [hi]
    dsimp only
    rw [hnormal.read]
    exact if_pos rfl
  · unfold Disk.activeRecord
    rw [hid]
    change (d.metadata i.experimentId).bind Metadata.experiment = some i
    rw [hn]
    exact hi

omit [DecidableEq δ] in
theorem Mode.Allows.unseen {n : Memory δ} (h : c.ready = true → n.visible = c.memory.visible) :
    m.Allows c (c.remember n) := by
  by_cases hready : c.ready = true
  · refine .inr (.inr (.inr ?_))
    unfold Core.view Disk.view
    exact congrArg (View.mk _ _ _ _) (h hready)
  · exact .inr (.inl (Bool.eq_false_of_not_eq_true hready))

theorem loadState_locked (hs : Settled S c.disk f) (hj : c.disk.journal = none)
    (hagree : c.ready = true →
      loadedMemory f c.memory = c.memory ∧ ActiveAgrees c.disk c.memory f)
    (hnone : f.activeExperimentId = none → c.memory.active = none) :
    Locked S t m (loadState S t)
      (fun r c' => r = .ok () ∧ Idle S c' f ∧ c.Same c' ∧ c'.disk = c.disk) c := by
  refine loadStateAuthority_locked hs.state (.unseen fun hr => by rw [(hagree hr).1]) ?_
  refine Locked.readThen ?_
  intro w hw
  rw [hw.memory, hw.disk]
  cases hid : f.activeExperimentId with
  | none =>
      have hstate : (c.remember (loadedMemory f c.memory)).memory.state.activeExperimentId =
          none := hid
      rw [hstate]
      refine Locked.ret ⟨rfl, ⟨hj, hs, ?_, rfl, fun _ => rfl⟩, ⟨rfl, rfl, rfl⟩, rfl⟩
      unfold ActiveAgrees Disk.activeRecord Memory.visible
      rw [hid]
      change c.memory.active.map _ = none
      rw [hnone hid]
      rfl
  | some id =>
      have hstate : (c.remember (loadedMemory f c.memory)).memory.state.activeExperimentId =
          some id := hid
      rw [hstate]
      obtain ⟨i, hread, hrecord, hrunning, hreload, _, _⟩ := hs.read hid
      have hdisk : (c.remember (loadedMemory f c.memory)).disk = c.disk := rfl
      dsimp only
      rw [hdisk, hread]
      refine Locked.ofExceptThen ?_ fun e he => (nomatch he)
      intro found hfound
      obtain rfl := Except.ok.inj hfound
      dsimp only
      rw [if_pos hrunning]
      have hvisible : (some i).map ExperimentInfo.reload = c.disk.activeRecord f := by
        rw [hrecord]
        exact congrArg some hreload
      refine Locked.threadThen (Locked.remember (.unseen ?_) ?_)
      · intro hr
        have hactive : c.memory.active.map ExperimentInfo.reload = c.disk.activeRecord f :=
          (hagree hr).2
        unfold Memory.visible
        exact congrArg (fun a => ({ loadedMemory f c.memory with active := a } : Memory δ))
          (hvisible.trans hactive.symm)
      · exact ⟨rfl, ⟨hj, hs, hvisible, rfl, fun _ => rfl⟩, ⟨rfl, rfl, rfl⟩, rfl⟩

end Loading

section Recovery

variable {c c' : Core δ κ} {q : Disk δ κ} {f : StateFile δ} {j : Journal δ κ}
variable {info : ExperimentInfo} {rows : List ExperimentInfo} {t : ℕ} {m : Mode}

omit [DecidableEq δ] in
theorem ActiveAgrees.transfer {d d' : Disk δ κ} {n n' : Memory δ} (h : ActiveAgrees d n f)
    (hd : d'.metadata = d.metadata) (hn : n'.active = n.active) : ActiveAgrees d' n' f := by
  unfold ActiveAgrees Memory.visible Disk.activeRecord at h ⊢
  rw [hd, hn]
  exact h

omit [DecidableEq δ] in
theorem ActiveAgrees.active_none {d : Disk δ κ} {n : Memory δ} (h : ActiveAgrees d n f)
    (hf : f.activeExperimentId = none) : n.active = none := by
  unfold ActiveAgrees Memory.visible Disk.activeRecord at h
  rw [hf] at h
  exact Option.map_eq_none_iff.mp h

theorem Quiet.of_pending (hj : c.disk.journal = some j)
    (h : ∀ f, c.disk.state = some f → f.revision ≠ j.request.predecessor.revision →
      ActiveAgrees c.disk c.memory f) : Quiet S c where
  idle hnone := by
    rw [hj] at hnone
    cases hnone
  committed j' f hj' hf hne := by
    rw [hj] at hj'
    obtain rfl := Option.some.inj hj'
    exact h f hf hne

theorem Idle.quiet (h : Idle S c f) : Quiet S c where
  idle _ := ⟨f, h⟩
  committed j f' hj := by
    rw [h.journal] at hj
    cases hj

theorem Stopped.quiet (h : Stopped S q f j c c')
    (hc : ∀ f', c.disk.state = some f' → f'.revision ≠ j.request.predecessor.revision →
      ActiveAgrees c.disk c.memory f') : Quiet S c' := by
  refine .of_pending h.pending.journal ?_
  intro f' hf' hne
  rcases h.committed f' hf' hne with hagrees | ⟨hactive, hdisk⟩
  · exact hagrees
  · rw [hdisk] at hf' ⊢
    exact (hc f' hf' hne).transfer rfl hactive

theorem Applied.agrees (h : Applied S q f j c c' info rows)
    (hc : ∀ f', c.disk.state = some f' → f'.revision ≠ j.request.predecessor.revision →
      ActiveAgrees c.disk c.memory f') :
    ActiveAgrees c'.disk c'.memory (j.resultFile S) := by
  rcases h.active with hagrees | ⟨hactive, hdisk⟩
  · exact hagrees
  · have hstate : c.disk.state = some (j.resultFile S) := by
      rw [← hdisk, h.disk]
      rfl
    have hne : (j.resultFile S).revision ≠ j.request.predecessor.revision := by
      change j.request.predecessor.revision + 1 ≠ j.request.predecessor.revision
      omega
    rw [hdisk]
    exact (hc _ hstate hne).transfer rfl hactive

theorem Applied.idle (h : Applied S q f j c c' info rows)
    (hagrees : ActiveAgrees c'.disk c'.memory (j.resultFile S)) :
    Idle S (c'.write { c'.disk with journal := none }) (j.resultFile S) := by
  have hresult : { c'.disk with journal := none } = result S q j info rows := by
    rw [h.disk]
    rfl
  refine ⟨rfl, ?_, hagrees.transfer rfl rfl, ?_, fun _ => h.state⟩
  · change Settled S { c'.disk with journal := none } _
    rw [hresult]
    exact h.applying.settled
  · exact (congrArg (fun n : Memory δ => n.state.activeExperimentId) h.state).symm

theorem Applied.unlink (h : Applied S q f j c c' info rows) :
    Write S c'.history c'.disk { c'.disk with journal := none } := by
  rw [h.disk]
  exact .unlink h.last h.applying

theorem Applied.pending (h : Applied S q f j c c' info rows) : c'.disk.journal = some j := by
  rw [h.disk]
  exact stage_journal 3

theorem Applied.quiet (h : Applied S q f j c c' info rows)
    (hagrees : ActiveAgrees c'.disk c'.memory (j.resultFile S)) : Quiet S c' := by
  refine .of_pending h.pending ?_
  intro f' hf' _
  have hstate : c'.disk.state = some (j.resultFile S) := by
    rw [h.disk]
    rfl
  rw [hstate] at hf'
  obtain rfl := Option.some.inj hf'
  exact hagrees

variable (S)

/-- What a recovery that returns makes of a directory, after the directories `h`. -/
inductive Settles (h : List (Disk δ κ)) (d : Disk δ κ) : Disk δ κ → Prop
  | first (f : StateFile δ) : Blank d → Settles h d { d with state := some f }
  | quiet : d.journal = none → Settles h d d
  | result {q : Disk δ κ} {f : StateFile δ} {j : Journal δ κ} {info : ExperimentInfo}
      {rows : List ExperimentInfo} :
      lastQuiet h = some q → Pending S q f j d → Applying S q f j info rows →
        Settles h d (result S q j info rows)

def Recovered (c : Core δ κ) (r : Except Failure Unit) (c' : Core δ κ) : Prop :=
  c.Same c' ∧
    ((r = .ok () ∧ c'.disk.journal = none ∧
        ((c.disk.journal = none ∧ c' = c) ∨
          (c.disk.journal ≠ none ∧ Settles S c.history c.disk c'.disk ∧ ∃ f, Idle S c' f))) ∨
      ((∃ e, r = .error e) ∧ (c.ready = true → Quiet S c')))

variable {S}

theorem recoverTransition_locked (hm : m = .free ∨ m = .admitted)
    (hquiet : c.ready = true → Quiet S c)
    (hboot : c.ready = false → c.memory.active = none) :
    Locked S t m (recoverTransition S t) (Recovered S c) c := by
  refine Locked.known ?_
  intro hchronicle
  refine Locked.readThen ?_
  intro w hw
  rw [hw.disk]
  cases hj : c.disk.journal with
  | none => exact Locked.ret ⟨.refl c, .inl ⟨rfl, hj, .inl ⟨hj, rfl⟩⟩⟩
  | some j =>
      dsimp only
      have hne : c.disk.journal ≠ none := by
        rw [hj]
        exact fun h => (nomatch h)
      by_cases hbound : journalBound < S.journalBytes j
      · rw [if_pos hbound]
        exact Locked.raise ⟨.refl c, .inr ⟨⟨_, rfl⟩, hquiet⟩⟩
      rw [if_neg hbound]
      -- The journal is the one that the directory was left with.
      cases hstatus : hchronicle.status with
      | blank hblank =>
          rw [hblank.journal] at hj
          cases hj
      | settled f _ hnone =>
          rw [hnone] at hj
          cases hj
      | pending q f j' hlast hpending =>
          have hjj : j' = j := Option.some.inj (hpending.journal.symm.trans hj)
          subst hjj
          obtain ⟨f', hf'⟩ : ∃ f', c.disk.state = some f' := by
            rcases hpending.state with hstate | ⟨info, rows, _, hdisk⟩
            · exact ⟨f, hstate⟩
            · exact ⟨_, by rw [hdisk]; rfl⟩
          have hreloaded := hpending.fits.reloaded
          refine Locked.threadThen (loadStateAuthority_locked hf' (.pending hj) ?_)
          have hcommitted : c.ready = true → ∀ f', c.disk.state = some f' →
              f'.revision ≠ j'.request.predecessor.revision →
                ActiveAgrees c.disk c.memory f' :=
            fun hr f' hf' hrevision => (hquiet hr).committed j' f' hj hf' hrevision
          have happlied : Locked S t m (applyTransition S t j')
              (Outcome S q f j'.reload (c.remember (loadedMemory f' c.memory)))
              (c.remember (loadedMemory f' c.memory)) := by
            refine applyTransition_locked hm (hreloaded.symm ▸ hpending) hlast ?_
            intro f'' hf''
            have hsame : f'' = f' := Option.some.inj (hf''.symm.trans hf')
            subst hsame
            rfl
          refine Locked.seq happlied ?_ ?_
          · rintro _ c₂ (⟨_, info, rows, h₂⟩ | ⟨⟨e, he⟩, _⟩)
            · rw [hreloaded] at h₂
              have hagrees : c.ready = true →
                  ActiveAgrees c₂.disk c₂.memory (j'.resultFile S) := by
                intro hr
                exact h₂.agrees fun f' hf' hrevision =>
                  (hcommitted hr f' hf' hrevision).transfer rfl rfl
              have hsame₂ : c.Same c₂ := ⟨h₂.same.ready, h₂.same.modeWriteFailed, h₂.same.recorded⟩
              have hsettled : Settled S { c₂.disk with journal := none } (j'.resultFile S) := by
                rw [h₂.disk]
                exact h₂.applying.settled
              refine Locked.seq (R := fun r c₃ =>
                (r = .ok () ∧ c₃ = c₂.write { c₂.disk with journal := none }) ∨
                  ((∃ e, r = .error e) ∧ c.Same c₃ ∧ (c.ready = true → Quiet S c₃))) ?_ ?_ ?_
              · refine Locked.durable h₂.unlink (.pending h₂.pending) ?_ ?_ (.inl ⟨rfl, rfl⟩)
                · exact .inr ⟨⟨_, rfl⟩, hsame₂, fun hr => h₂.quiet (hagrees hr)⟩
                · exact .inr ⟨⟨_, rfl⟩, ⟨hsame₂.ready, hsame₂.modeWriteFailed, hsame₂.recorded⟩,
                    fun hr => (h₂.idle (hagrees hr)).quiet⟩
              · rintro _ c₃ (⟨_, rfl⟩ | ⟨⟨e, he⟩, _⟩)
                · refine Locked.mono (loadState_locked hsettled rfl ?_ ?_) ?_
                  · intro hr
                    have hr' : c.ready = true := hsame₂.ready.symm.trans hr
                    exact ⟨h₂.state, (hagrees hr').transfer rfl rfl⟩
                  · intro hnone
                    cases hr : c.ready with
                    | true => exact (hagrees hr).active_none hnone
                    | false =>
                        rcases h₂.active with hactive | ⟨hactive, _⟩
                        · exact hactive.active_none hnone
                        · exact hactive.trans (hboot hr)
                  · rintro r c₄ ⟨rfl, hidle, hsame, hdisk⟩
                    have hresult : c₄.disk = result S q j' info rows := by
                      rw [hdisk]
                      change { c₂.disk with journal := none } = result S q j' info rows
                      rw [h₂.disk]
                      rfl
                    refine ⟨hsame₂.trans ⟨hsame.ready, hsame.modeWriteFailed, hsame.recorded⟩,
                      .inl ⟨rfl, hidle.journal, .inr ⟨hne, ?_, _, hidle⟩⟩⟩
                    rw [hresult]
                    exact .result hlast hpending h₂.applying
                · cases he
              · rintro e c₃ (⟨he, _⟩ | ⟨_, hsame, hquiet₃⟩)
                · cases he
                · exact ⟨hsame, .inr ⟨⟨e, rfl⟩, hquiet₃⟩⟩
            · cases he
          · rintro e c₂ (⟨he, _⟩ | ⟨_, h₂⟩)
            · cases he
            · refine ⟨⟨h₂.same.ready, h₂.same.modeWriteFailed, h₂.same.recorded⟩,
                .inr ⟨⟨e, rfl⟩, fun hr => ?_⟩⟩
              rw [hreloaded] at h₂
              exact h₂.quiet fun f' hf' hrevision =>
                (hcommitted hr f' hf' hrevision).transfer rfl rfl

end Recovery

section Commitment

variable {c : Core δ κ} {f : StateFile δ} {t : ℕ}

omit [DecidableEq δ] in
theorem buildJournal_ok {n : Memory δ} {requestId : String} {operation : Operation}
    {info : ExperimentInfo} {x : Extras κ} {j : Journal δ κ}
    (h : buildJournal S n requestId operation info x = .ok j) :
    j.request =
      { managerIncarnation := n.managerIncarnation
        requestId := requestId
        operation := operation
        experiment := info
        predecessor := n.stateCut S
        extras := x } := by
  unfold buildJournal at h
  dsimp only at h
  split at h
  · obtain rfl := Except.ok.inj h
    rfl
  · cases h
  · cases h

theorem stateCut_loadedMemory (n : Memory δ) (hvalid : stateFileRefusal S f = none) :
    (loadedMemory f n).stateCut S = f.cut := by
  unfold stateFileRefusal at hvalid
  split at hvalid
  · cases hvalid
  · rename_i hfingerprint
    split at hvalid
    · cases hvalid
    · rename_i hreceipt
      rw [not_not] at hfingerprint hreceipt
      unfold StateFile.cut
      rw [hfingerprint, hreceipt]
      rfl

theorem Idle.loaded (h : Idle S c f) : Idle S (c.remember (loadedMemory f c.memory)) f :=
  ⟨h.journal, h.settled, h.active.transfer rfl rfl, rfl, fun _ => rfl⟩

theorem commitTransition_locked (hidle : Idle S c f) (hready : c.ready = true)
    {requestId : String} {operation : Operation} {info : ExperimentInfo} {x : Extras κ}
    (htarget : ∀ j : Journal δ κ, j.request.operation = operation → j.request.extras = x →
      ∀ info', info.reload.fromPayload = .ok info' → Target c.disk j info') :
    Locked S t .admitted (commitTransition S t requestId operation info x)
      (fun _ c' => Quiet S c') c := by
  refine Locked.seq (recoverTransition_locked (.inr rfl) (fun _ => hidle.quiet) ?_) ?_ ?_
  · intro hr
    rw [hready] at hr
    cases hr
  · rintro _ c₀ ⟨_, ⟨_, _, ⟨_, rfl⟩ | ⟨hne, _⟩⟩ | ⟨⟨e, he⟩, _⟩⟩
    · refine loadStateAuthority_locked hidle.settled.state (.inl rfl) ?_
      have hidle₁ := hidle.loaded
      generalize hc₁ : c₀.remember (loadedMemory f c₀.memory) = c₁ at hidle₁ ⊢
      have hmemory₁ : c₁.memory = loadedMemory f c₀.memory := by rw [← hc₁]; rfl
      have hdisk₁ : c₁.disk = c₀.disk := by rw [← hc₁]; rfl
      refine Locked.readThen ?_
      intro w hw
      rw [hw.memory]
      refine Locked.ofExceptThen ?_ fun e _ => hidle₁.quiet
      intro j hbuilt
      have hrequest := buildJournal_ok hbuilt
      have hcut : j.request.predecessor = f.cut := by
        rw [hrequest, hmemory₁]
        exact stateCut_loadedMemory c₀.memory hidle.settled.valid
      have hfits : Fits S c₁.disk f j.reload := by
        refine ⟨hidle₁.settled, hidle₁.journal, hcut, ?_, ?_, ?_⟩
        · change j.request.managerIncarnation = f.managerIncarnation
          rw [hrequest, hmemory₁]
          rfl
        · unfold Journal.reload Request.reload
          rw [ExperimentInfo.reload_reload]
        · intro info' hpayload
          have hexperiment : j.reload.request.experiment = info.reload := by
            change j.request.experiment.reload = info.reload
            rw [hrequest]
          rw [hexperiment] at hpayload
          rw [hdisk₁]
          refine htarget j.reload ?_ ?_ info' hpayload
          · change j.request.operation = operation
            rw [hrequest]
          · change j.request.extras = x
            rw [hrequest]
      have hrevision : f.revision = j.reload.request.predecessor.revision := hfits.revision
      have hpredecessor : ∀ f', ({ c₁.disk with journal := some j.reload } : Disk δ κ).state =
          some f' → f'.revision ≠ j.reload.request.predecessor.revision →
            ActiveAgrees { c₁.disk with journal := some j.reload } c₁.memory f' := by
        intro f' hf' hne
        have hsame : f = f' := Option.some.inj (hidle₁.settled.state.symm.trans hf')
        rw [← hsame] at hne
        exact absurd hrevision hne
      refine Locked.seq (R := fun r c₂ =>
        (r = .ok () ∧ c₂ = c₁.write { c₁.disk with journal := some j.reload }) ∨
          ((∃ e, r = .error e) ∧ Quiet S c₂)) ?_ ?_ ?_
      · refine Locked.durable (.journal hfits) (.inl rfl) (.inr ⟨⟨_, rfl⟩, hidle₁.quiet⟩)
          (.inr ⟨⟨_, rfl⟩, ?_⟩) (.inl ⟨rfl, rfl⟩)
        exact .of_pending rfl hpredecessor
      · rintro _ c₂ (⟨_, rfl⟩ | ⟨⟨e, he⟩, _⟩)
        · have happlied : Locked S t .admitted (applyTransition S t j)
              (Outcome S c₁.disk f j.reload
                (c₁.write { c₁.disk with journal := some j.reload }))
              (c₁.write { c₁.disk with journal := some j.reload }) := by
            refine applyTransition_locked (.inr rfl) (.journaled hfits)
              (lastQuiet_cons_of_none hidle₁.journal) ?_
            intro f' hf'
            have hsame : f = f' := Option.some.inj (hidle₁.settled.state.symm.trans hf')
            subst hsame
            change loadedMemory f c₁.memory = c₁.memory
            rw [hmemory₁]
            rfl
          refine Locked.seq happlied ?_ ?_
          · rintro _ c₃ (⟨_, info', rows, h₃⟩ | ⟨⟨e, he⟩, _⟩)
            · have hagrees := h₃.agrees hpredecessor
              exact Locked.durable h₃.unlink (.inl rfl) (h₃.quiet hagrees)
                (h₃.idle hagrees).quiet (h₃.idle hagrees).quiet
            · cases he
          · rintro e c₃ (⟨he, _⟩ | ⟨_, h₃⟩)
            · cases he
            · exact h₃.quiet hpredecessor
        · cases he
      · rintro e c₂ (⟨he, _⟩ | ⟨_, hquiet⟩)
        · cases he
        · exact hquiet
    · exact absurd hidle.journal hne
    · cases he
  · rintro e c₀ ⟨hsame, ⟨he, _⟩ | ⟨_, hquiet⟩⟩
    · cases he
    · exact hquiet hready

end Commitment

section Construction

variable {c : Core δ κ} {t : ℕ}

/-- The directory with a first state file. -/
def Disk.StartsAs (d d' : Disk δ κ) : Prop := ∃ f, d' = { d with state := some f }

theorem firstState_locked {α : Type} {k : Unit → Op δ κ α}
    {Q : Except Failure α → Core δ κ → Prop} (hblank : Blank c.disk) (hready : c.ready = false)
    (hstopped : ∀ e c', c'.ready = false → Q (.error e) c')
    (h : ∀ c', c'.ready = false → c'.memory.active = c.memory.active →
      c.disk.StartsAs c'.disk → Locked S t .free (k ()) Q c') :
    Locked S t .free (loadStateAuthority S >>= k) Q c := by
  refine Locked.seq (R := fun r c' => c'.ready = false ∧
    (r = .ok () → c'.memory.active = c.memory.active ∧
      c.disk.StartsAs c'.disk)) ?_ ?_ ?_
  · refine Locked.readThen ?_
    intro w hw
    rw [hw.disk, hblank.state]
    dsimp only
    rw [hblank.journal, if_neg (fun hs => (nomatch hs))]
    refine Locked.rememberThen (.inr (.inl hready)) ?_
    refine Locked.readThen ?_
    intro w₁ hw₁
    rw [hw₁.memory]
    have hwrite : ∀ n : Memory δ, n.state.activeExperimentId = none →
        Write S c.history c.disk { c.disk with state := some (n.stateFile S 0 none) } := by
      intro n hn
      refine .first hblank hn rfl ?_
      unfold stateFileRefusal
      rw [if_neg (fun hne => hne rfl), if_neg (fun hne => hne rfl)]
      rfl
    refine Locked.seq (R := fun r c' => c'.ready = false ∧
      (r = .ok () → c'.memory.active = c.memory.active ∧
        c.disk.StartsAs c'.disk)) ?_ ?_ ?_
    · exact Locked.durable (hwrite _ rfl) (.inr (.inl hready)) ⟨hready, fun h => (nomatch h)⟩
        ⟨hready, fun h => (nomatch h)⟩ ⟨hready, fun _ => ⟨rfl, _, rfl⟩⟩
    · rintro _ c₂ ⟨hready₂, h₂⟩
      refine Locked.remember (.inr (.inl hready₂)) ⟨hready₂, fun _ => ?_⟩
      exact h₂ rfl
    · rintro e c₂ ⟨hready₂, _⟩
      exact ⟨hready₂, fun h => (nomatch h)⟩
  · rintro _ c' ⟨hready', h'⟩
    obtain ⟨hactive, hstate⟩ := h' rfl
    exact h c' hready' hactive hstate
  · rintro e c' ⟨hready', _⟩
    exact hstopped e c' hready'

variable (S)

/-- How `construct` ends. -/
def Constructed (c : Core δ κ) (r : Except Failure Unit) (c' : Core δ κ) : Prop :=
  (c'.ready = true → Quiet S c') ∧
    (r = .ok () → (∃ f, Idle S c' f) ∧ Settles S c.history c.disk c'.disk)

variable {S}

theorem Constructed.raised {e : Failure} {c' : Core δ κ} (h : c'.ready = false) :
    Constructed S c (.error e) c' := by
  refine ⟨?_, fun he => (nomatch he)⟩
  intro hr
  rw [h] at hr
  cases hr

omit [DecidableEq δ] in
theorem Settles.of_quiet [DecidableEq δ] {h : List (Disk δ κ)} {d d' : Disk δ κ}
    (hs : Settles S h d d') (hstate : d.state ≠ none) (hj : d.journal = none) : d' = d := by
  cases hs with
  | first f hblank => exact absurd hblank.state hstate
  | quiet => rfl
  | result _ hpending _ =>
      rw [hpending.journal] at hj
      cases hj

theorem started_locked (hready : c.ready = false) (hactive : c.memory.active = none)
    (hstate : c.disk.state ≠ none) :
    Locked S t .free
      (do
        recoverTransition S t
        loadState S t
        Coro.update fun w => { w with ready := true })
      (Constructed S c) c := by
  have hnot : c.ready = true → Quiet S c := by
    intro hr
    rw [hready] at hr
    cases hr
  refine Locked.known ?_
  intro hchronicle
  refine Locked.seq (recoverTransition_locked (.inl rfl) hnot fun _ => hactive) ?_ ?_
  · rintro _ c₁ ⟨hsame, ⟨_, hj, hcase⟩ | ⟨⟨e, he⟩, _⟩⟩
    · have hready₁ : c₁.ready = false := hsame.ready.trans hready
      obtain ⟨f, hsettled, hnone⟩ : ∃ f, Settled S c₁.disk f ∧
          (f.activeExperimentId = none → c₁.memory.active = none) := by
        rcases hcase with ⟨hj₀, rfl⟩ | ⟨_, _, f, hidle⟩
        · cases hchronicle.status with
          | blank hblank => exact absurd hblank.state hstate
          | settled f hsettled _ => exact ⟨f, hsettled, fun _ => hactive⟩
          | pending q f j _ hpending =>
              rw [hpending.journal] at hj₀
              cases hj₀
        · exact ⟨f, hidle.settled, hidle.active.active_none⟩
      have hsettles : Settles S c.history c.disk c₁.disk := by
        rcases hcase with ⟨hj₀, rfl⟩ | ⟨_, hsettles, _⟩
        · exact .quiet hj₀
        · exact hsettles
      refine Locked.seq (loadState_locked hsettled hj ?_ hnone) ?_ ?_
      · intro hr
        rw [hready₁] at hr
        cases hr
      · rintro _ c₂ ⟨_, hidle, hsame₂, hdisk₂⟩
        refine Locked.update { c₂ with ready := true } ?_
          (.inr (.inl (hsame₂.ready.trans hready₁))) id id (fun _ => rfl) ?_
        · rintro w rfl
          rfl
        · have hidle₃ : Idle S { c₂ with ready := true } f :=
            ⟨hidle.journal, hidle.settled, hidle.active, hidle.identity, hidle.state⟩
          exact ⟨fun _ => hidle₃.quiet, fun _ => ⟨⟨f, hidle₃⟩, hdisk₂.symm ▸ hsettles⟩⟩
      · rintro e c₂ ⟨he, _⟩
        cases he
    · cases he
  · rintro e c₁ ⟨hsame, _⟩
    exact .raised (hsame.ready.trans hready)

theorem construct_locked (hready : c.ready = false) (incarnation : String) :
    Locked S t .free
      (do
        remember fun _ => World.freshMemory incarnation
        loadStateAuthority S
        recoverTransition S t
        loadState S t
        Coro.update fun w => { w with ready := true })
      (Constructed S c) c := by
  refine Locked.rememberThen (.inr (.inl hready)) (Locked.known ?_)
  intro hchronicle
  generalize hc₁ : c.remember (World.freshMemory incarnation) = c₁ at hchronicle ⊢
  have hready₁ : c₁.ready = false := by rw [← hc₁]; exact hready
  have hactive₁ : c₁.memory.active = none := by rw [← hc₁]; rfl
  cases hstate : c₁.disk.state with
  | none =>
      have hblank : Blank c₁.disk := by
        cases hchronicle.status with
        | blank hblank => exact hblank
        | settled f hsettled _ =>
            rw [hsettled.state] at hstate
            cases hstate
        | pending q f j _ hpending =>
            rcases hpending.state with hs | ⟨info, rows, _, hdisk⟩
            · rw [hs] at hstate
              cases hstate
            · rw [hdisk] at hstate
              cases hstate
      refine firstState_locked hblank hready₁ ?_ ?_
      · intro e c' hr'
        exact .raised hr'
      · rintro c' hr' hactive' ⟨f, hdisk'⟩
        have hstate' : c'.disk.state ≠ none := by
          rw [hdisk']
          exact fun h => (nomatch h)
        refine (started_locked hr' (hactive'.trans hactive₁) hstate').mono ?_
        rintro r c'' ⟨hquiet, hdone⟩
        refine ⟨hquiet, ?_⟩
        intro hr
        obtain ⟨hidle, hsettles⟩ := hdone hr
        have hquiet' : c'.disk.journal = none := by
          rw [hdisk']
          exact hblank.journal
        refine ⟨hidle, ?_⟩
        rw [hsettles.of_quiet hstate' hquiet', hdisk', ← hc₁]
        refine .first f ?_
        rw [← hc₁] at hblank
        exact hblank
  | some f =>
      refine loadStateAuthority_locked hstate (.inr (.inl hready₁)) ?_
      have hstate' : (c₁.remember (loadedMemory f c₁.memory)).disk.state ≠ none := by
        change c₁.disk.state ≠ none
        rw [hstate]
        exact fun h => (nomatch h)
      refine (started_locked (c := c₁.remember (loadedMemory f c₁.memory)) hready₁ hactive₁
        hstate').mono ?_
      rintro r c' hdone
      rw [← hc₁] at hdone
      exact hdone

end Construction

end Experiments
end CryoDaq
