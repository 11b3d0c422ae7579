import CryoDaq.Safety.CommandPath

/-!
# What starting and stopping guarantee

`start()`, `stop()` and the tasks that the manager retains.

**Phases of a stop.**  `Stopping` is a `stop()` that has established its cut;
`Quiet` adds that both its children have ended and their ends were consumed, so
that no new settlement can appear; `Withheld` is a stop that gave up and
restored what it owned.  Each speaks about the cut only as long as no other
stop began over settlements that are not its own.
-/

namespace CryoDaq
namespace Safety

open Async Journal

namespace Py

variable {t : Nat} {cx : Bool} {s : State}

theorem raises_sync (f : State → State × Option Exc) :
    (sync f).RaisesIn State.Refusing s := by
  change (refusal (f s).2).RaisesIn State.Refusing (f s).1
  cases (f s).2 with
  | none => trivial
  | some e => exact List.mem_cons_self

theorem raises_settled {α : Type} (p : Py α) :
    (settled p).RaisesIn State.Refusing s :=
  .settle _ _

theorem raises_settledWait (w : Wait) :
    (settledWait w).RaisesIn State.Refusing s :=
  .settle _ _

theorem raises_settledOff (scope : Option SmuChannel) (owner : Option Nat) :
    (settledOff t scope owner).RaisesIn State.Refusing s :=
  .bind (raises_settled _) fun _ _ => trivial

theorem raises_drainChildFaultSettlements (owners : List Nat) :
    (drainChildFaultSettlements owners).RaisesIn State.Refusing s := by
  refine .read ?_
  dsimp only
  split
  · trivial
  · exact .bind (raises_settledWait _) fun _ _ => trivial

theorem raises_reconciliationProof :
    (reconciliationProof t).RaisesIn State.Refusing s := by
  refine .bind (raises_settledOff _ _) fun ⟨proved, _⟩ _ => ?_
  cases proved
  · trivial
  · exact .updateThen trivial

theorem raises_observeTerminalSafetyChildren :
    observeTerminalSafetyChildren.RaisesIn State.Refusing s :=
  .bind (raises_sync _) fun _ _ => raises_sync _

theorem raises_reconcileLateSettlements :
    (reconcileLateSettlements t).RaisesIn State.Refusing s := by
  refine .bind raises_observeTerminalSafetyChildren fun _ s₁ => .read ?_
  split
  · trivial
  · refine .bind (raises_drainChildFaultSettlements _) fun ⟨drained, _⟩ _ => ?_
    dsimp only
    split
    · exact .bind raises_reconciliationProof fun _ _ => trivial
    · trivial

theorem raises_settleHazardousConflict (reason : String) :
    (settleHazardousConflict t reason).RaisesIn State.Refusing s := by
  refine .read (.bind (raises_sync _) fun _ _ => ?_)
  refine .bind (raises_settled _) fun _ _ => ?_
  refine .bind (raises_drainChildFaultSettlements _) fun _ _ => ?_
  refine .bind raises_reconciliationProof fun _ _ => ?_
  refine .bind raises_reconcileLateSettlements fun _ _ => ?_
  refine .bind (raises_sync _) fun _ _ => ?_
  exact .bind (raises_settled _) fun _ _ => trivial

theorem raises_reconcileHazardousSuccess (operation : String) :
    (reconcileHazardousSuccess t operation).RaisesIn State.Refusing s := by
  refine .bind raises_observeTerminalSafetyChildren fun _ s₁ => .read ?_
  split
  · trivial
  · exact .bind (raises_settleHazardousConflict _) fun _ _ => trivial

end Py

/-! ## The phases of a stop -/

/-- A `stop()` that has established its cut. -/
structure Stopping (t : Nat) (cut : StopCut) (s : State) : Prop extends
    Resting t s where
  holds : StopsOwned s.control.journal → s.lifecycle.Holds t cut

/-- Its children have ended, and no settlement can follow. -/
structure Quiet (t : Nat) (cut : StopCut) (s : State) : Prop extends
    Stopping t cut s where
  consumed : StopsOwned s.control.journal → s.lifecycle.Consumed cut
  ended : ∀ task ∈ cut.tasks, s.lifecycle.childDone task = true

/-- A `stop()` that gave up: it owns what it owned, and may be retried. -/
structure Withheld (t : Nat) (cut : StopCut) (s : State) : Prop extends
    Resting t s where
  retained : StopsOwned s.control.journal →
    s.lifecycle.childGeneration = cut.generation ∧
      s.lifecycle.collectTask = cut.collect ∧
        s.lifecycle.monitorTask = cut.monitor ∧
          s.lifecycle.stoppingChildGeneration = none

/-- How a part of a `stop()` ends: it goes on, or it has given up. -/
def OrWithheld {α : Type} (t : Nat) (cut : StopCut) (P : State → Prop) :
    Except Exc α → State → Prop
  | .ok _, s => P s
  | .error _, s => Withheld t cut s

theorem orWithheld_seq {α γ : Type} {t : Nat} {cx : Bool} {cut : StopCut}
    {s : State} {P R : State → Prop} {c : Py α} {f : α → Py γ}
    (hc : wp (taskContract t) cx c (OrWithheld t cut R) s)
    (hf : ∀ a s', R s' →
      wp (taskContract t) cx (f a) (OrWithheld t cut P) s') :
    wp (taskContract t) cx (c >>= f) (OrWithheld t cut P) s :=
  wp_seq hc hf fun _ _ h => h

section Phases

variable {t : Nat} {cut : StopCut} {s s' : State}

theorem Withheld.of_refusing (h : Resting t s) (hr : s.Refusing) :
    Withheld t cut s :=
  ⟨h, fun ho => nomatch ho _ hr⟩

theorem resting_syncThen {α : Type} {cx : Bool}
    {f : State → State × Option Exc} {k : Unit → Py α}
    {Q : Except Exc α → State → Prop} (h : Resting t s)
    (hcalm : State.Calm s (f s).1)
    (hk : Resting t (f s).1 → wp (taskContract t) cx (k ()) Q (f s).1)
    (hrefused : ∀ e s', Resting t s' → s'.Refusing → Q (.error e) s') :
    wp (taskContract t) cx (Py.sync f >>= k) Q s :=
  wp_syncThen (fun _ _ hc => hc.allowed t) (hcalm.allowed t)
    (fun _ => hk (h.calm hcalm)) fun _ _ => hrefused _ _
      ((h.calm hcalm).calm (State.calm_refused _)) List.mem_cons_self

theorem Stopping.drift (h : Stopping t cut s) (hd : State.Drift t s s')
    (hi : s'.Inv) (hu : t ∉ s'.control.stopOwners) : Stopping t cut s' where
  inv := hi
  cmdLock := fun hl => h.cmdLock (hd.control.cmdLock.mp hl)
  runRequestLock := fun hl => h.runRequestLock (hd.control.runRequestLock.mp hl)
  unmarked := hu
  holds := fun ho => hd.lifecycle.held ho cut
    (h.holds (State.stopsOwned_mono hd.control.journal ho))

theorem Stopping.still (h : Stopping t cut s) (hs : State.Still t s s')
    (hi : s'.Inv) : Stopping t cut s' :=
  h.drift hs.toDrift hi fun hm => h.unmarked (hs.unmarked hm)

theorem stable_stopping (t : Nat) (cut : StopCut) :
    Stable t (Stopping t cut) where
  inv := fun _ h => h.inv
  covered := fun _ h hm => absurd hm h.unmarked
  still := fun _ _ h hs hi => h.still hs hi

theorem Quiet.still (h : Quiet t cut s) (hs : State.Still t s s')
    (hi : s'.Inv) : Quiet t cut s' where
  toStopping := h.toStopping.still hs hi
  consumed := by
    intro ho
    have ho' := State.stopsOwned_mono hs.control.journal ho
    exact (hs.lifecycle.settled ho cut (h.holds ho') (h.consumed ho')).1
  ended := fun task hm => hs.lifecycle.children task (h.ended task hm)

theorem Quiet.settlements (h : Quiet t cut s) (hs : State.Still t s s')
    (ho : StopsOwned s'.control.journal) :
    s'.lifecycle.settlements = s.lifecycle.settlements ∧
      ∀ id ∈ s'.lifecycle.unsettled, id ∈ s.lifecycle.unsettled := by
  have ho' := State.stopsOwned_mono hs.control.journal ho
  exact (hs.lifecycle.settled ho cut (h.holds ho') (h.consumed ho')).2

theorem Lifecycle.mem_terminal {l : Lifecycle} {task : Nat}
    (h : l.childDone task = true) : task ∈ l.terminal := by
  refine List.mem_filter.mpr ⟨List.mem_range.mpr ?_, h⟩
  unfold Lifecycle.childDone at h
  cases hc : l.children[task]? with
  | none =>
      rw [hc] at h
      cases h
  | some child => exact (List.getElem?_eq_some_iff.mp hc).1

/-- What `stop()` has proved when it lets its children go. -/
structure Released (t : Nat) (cut : StopCut) (s : State) : Prop extends
    Stopping t cut s where
  inactive : s.control.activeSources = ∅
  proved : StopsOwned s.control.journal → ∃ proof : OffProof,
    .outputOffProved proof ∈ s.control.journal ∧ proof.task = t ∧
      proof.confirmed = true ∧ proof.unsettled = [] ∧
        proof.settlements = s.lifecycle.settlements ∧
          ∀ child ∈ cut.tasks, child ∈ proof.terminal

/-- Once its children have ended and every pending settlement was drained, no
settlement is unfinished, and none can follow. -/
theorem Quiet.drained {s₁ : State} (h : Quiet t cut s)
    (hs : State.Still t s s₁)
    (hdrained : ∀ id ∈ s.lifecycle.pendingChildFaultSettlements,
      s₁.lifecycle.backgroundDone id = true)
    (ho : StopsOwned s₁.control.journal) : s₁.lifecycle.unsettled = [] := by
  refine List.eq_nil_iff_forall_not_mem.mpr fun id hid => ?_
  have hbefore := (h.settlements hs ho).2 id hid
  have hdone := hdrained id (h.inv.lifecycle.pending id hbefore)
  obtain ⟨b, hb, _, hrank⟩ := (Lifecycle.mem_unsettled _ id).mp hid
  obtain ⟨b', hb', hrank'⟩ := (Lifecycle.backgroundDone_iff _ id).mp hdone
  rw [hb] at hb'
  exact hrank (Option.some.inj hb' ▸ hrank')

theorem Quiet.released {s₁ s₂ : State} (h : Quiet t cut s₁)
    (hunsettled : StopsOwned s₁.control.journal →
      s₁.lifecycle.unsettled = [])
    (hi : s₂.Inv) (hs : State.Still t s₁ s₂)
    (hactive : s₂.control.activeSources = ∅) (hproved : ProvedOff t s₁ s₂) :
    Released t cut s₂ where
  toStopping := h.toStopping.still hs hi
  inactive := hactive
  proved := by
    intro ho
    obtain ⟨s, hbefore, hafter, hmem⟩ := hproved
    have ho' := State.stopsOwned_mono hafter.control.journal ho
    obtain ⟨hn, hu⟩ := h.settlements hbefore ho'
    have hnone :=
      hunsettled (State.stopsOwned_mono hbefore.control.journal ho')
    refine ⟨_, hmem, rfl, rfl, ?_, ?_, fun child hc => ?_⟩
    · refine List.eq_nil_iff_forall_not_mem.mpr fun id hid => ?_
      have := hu id hid
      rw [hnone] at this
      cases this
    · exact hn.trans (h.settlements hs ho).1.symm
    · exact Lifecycle.mem_terminal
        (hbefore.lifecycle.children child (h.ended child hc))

end Phases

namespace State

variable {s : State}

/-- What the end of a child does to the lifecycle: nothing, when it is not the
one that is owned; else it is consumed, and possibly retained as a fault. -/
theorem operatorChildDone_cases (task : Nat) (role : ChildRole)
    (generation : Nat) (s : State) :
    ((s.operatorChildDone task role generation).1.lifecycle = s.lifecycle ∧
      (s.lifecycle.childDone task = false ∨
        task ∈ s.lifecycle.consumedChildTasks ∨
        generation ≠ s.lifecycle.childGeneration ∨
        s.lifecycle.child role ≠ some task)) ∨
    ∃ l : Lifecycle,
      l.children = s.lifecycle.children ∧
      l.childGeneration = s.lifecycle.childGeneration ∧
      l.collectTask = s.lifecycle.collectTask ∧
      l.monitorTask = s.lifecycle.monitorTask ∧
      l.stoppingChildGeneration = s.lifecycle.stoppingChildGeneration ∧
      l.consumedChildTasks = task :: s.lifecycle.consumedChildTasks ∧
      ((s.operatorChildDone task role generation).1.lifecycle = l ∨
        ∃ reason source,
          (s.operatorChildDone task role generation).1.lifecycle =
            l.retainChildFaultSettlement reason source) := by
  unfold operatorChildDone
  cases hc : (s.lifecycle.children[task]?).bind ChildTask.outcome with
  | none =>
      refine Or.inl ⟨rfl, Or.inl ?_⟩
      unfold Lifecycle.childDone
      cases hchildren : s.lifecycle.children[task]? with
      | none => rfl
      | some child =>
          rw [hchildren] at hc
          have hnone : child.outcome = none := hc
          simp [hnone]
  | some outcome =>
      dsimp only
      split_ifs with hconsumed hforeign
      · exact Or.inl ⟨rfl, Or.inr (Or.inl hconsumed)⟩
      · exact Or.inl ⟨rfl, Or.inr (Or.inr hforeign)⟩
      · exact Or.inr ⟨{ s.lifecycle with
          consumedChildTasks := task :: s.lifecycle.consumedChildTasks },
          rfl, rfl, rfl, rfl, rfl, rfl, Or.inl rfl⟩
      · refine Or.inr ⟨{ s.lifecycle with
          consumedChildTasks := task :: s.lifecycle.consumedChildTasks
          safetyMonitorActive := false
          failedChildRole := some role
          failedChildReason :=
            some ("safety_" ++ role.text ++ "_" ++ outcome.text) },
          rfl, rfl, rfl, rfl, rfl, rfl, ?_⟩
        rcases andThen_cases _ _ with ⟨-, he⟩ | ⟨-, he⟩
        · refine Or.inr ⟨"Safety " ++ role.text ++
            " child exited unexpectedly (" ++ outcome.text ++ ")",
            role.faultSource, ?_⟩
          rw [he, onLifecycle_lifecycle, (faultAndRefresh_parts _ _ _).2.1]
          rfl
        · rw [he]
          exact Or.inl (faultAndRefresh_parts _ _ _).2.1

end State

/-- The same children are owned, and the same stop is in progress. -/
structure Lifecycle.SameCut (l l' : Lifecycle) : Prop where
  generation : l'.childGeneration = l.childGeneration
  collect : l'.collectTask = l.collectTask
  monitor : l'.monitorTask = l.monitorTask
  stopping : l'.stoppingChildGeneration = l.stoppingChildGeneration

namespace State

variable {s : State}

theorem operatorChildDone_cut (task : Nat) (role : ChildRole)
    (generation : Nat) (s : State) :
    s.lifecycle.SameCut
        (s.operatorChildDone task role generation).1.lifecycle ∧
      s.lifecycle.consumedChildTasks ⊆
        (s.operatorChildDone task role generation
          ).1.lifecycle.consumedChildTasks := by
  rcases operatorChildDone_cases task role generation s with
    ⟨h, _⟩ | ⟨l, -, hg, hc, hm, hs, hconsumed, h | ⟨_, _, h⟩⟩ <;> rw [h]
  · exact ⟨⟨rfl, rfl, rfl, rfl⟩, List.Subset.refl _⟩
  · exact ⟨⟨hg, hc, hm, hs⟩, hconsumed ▸ List.subset_cons_self _ _⟩
  · exact ⟨⟨hg, hc, hm, hs⟩, hconsumed ▸ List.subset_cons_self _ _⟩

theorem observeTerminalChild_cut (role : ChildRole) (s : State) :
    s.lifecycle.SameCut (s.observeTerminalChild role).1.lifecycle := by
  unfold observeTerminalChild
  split
  · split
    · exact (operatorChildDone_cut _ role s.lifecycle.childGeneration s).1
    · exact ⟨rfl, rfl, rfl, rfl⟩
  · exact ⟨rfl, rfl, rfl, rfl⟩

theorem mem_consumed_operatorChildDone {task : Nat} {role : ChildRole}
    (hdone : s.lifecycle.childDone task = true)
    (hchild : s.lifecycle.child role = some task) :
    task ∈ (s.operatorChildDone task role s.lifecycle.childGeneration
      ).1.lifecycle.consumedChildTasks := by
  rcases operatorChildDone_cases task role s.lifecycle.childGeneration s with
    ⟨h, hnot⟩ | ⟨l, -, -, -, -, -, hconsumed, h | ⟨_, _, h⟩⟩ <;> rw [h]
  · rcases hnot with hnot | hin | hgen | hforeign
    · rw [hdone] at hnot
      cases hnot
    · exact hin
    · exact absurd rfl hgen
    · exact absurd hchild hforeign
  · rw [hconsumed]
    exact List.mem_cons_self
  · change task ∈ l.consumedChildTasks
    rw [hconsumed]
    exact List.mem_cons_self

end State

namespace Py

variable {t : Nat} {cx : Bool} {s : State}

/-- Observing the children changes nothing that is owned, unless a refresh
raises. -/
theorem resting_observed (h : Resting t s) :
    wp (taskContract t) cx observeTerminalSafetyChildren (fun r s' =>
      Resting t s' ∧ s.control.journal <:+ s'.control.journal ∧
        ((∃ e, r = .error e ∧ s'.Refusing) ∨
          (r = .ok () ∧ s.lifecycle.SameCut s'.lifecycle))) s := by
  have hcollect := State.calm_observeTerminalChild .collect s
  have hcut := State.observeTerminalChild_cut .collect s
  have hcover := (stable_resting t).covered s h
  refine wp_mono (calm_task (Q := fun r s' =>
    (∃ e, r = .error e ∧ s'.Refusing) ∨
      (r = .ok () ∧ s.lifecycle.SameCut s'.lifecycle)) h.inv hcover ?_) ?_
  · refine wp_syncThen (fun _ _ hc => hc) hcollect (fun _ => ?_)
      fun e _ => Or.inl ⟨e, rfl, List.mem_cons_self⟩
    have hcut' := State.observeTerminalChild_cut .monitor
      (s.observeTerminalChild .collect).1
    refine wp_sync (fun _ _ hc => hc) (State.calm_observeTerminalChild _ _)
      (fun _ => Or.inr ⟨rfl, ?_⟩) fun e _ =>
        Or.inl ⟨e, rfl, List.mem_cons_self⟩
    exact ⟨hcut'.generation.trans hcut.generation,
      hcut'.collect.trans hcut.collect, hcut'.monitor.trans hcut.monitor,
      hcut'.stopping.trans hcut.stopping⟩
  · rintro r s' ⟨hr, hi', hs'⟩
    exact ⟨(stable_resting t).still s s' h hs' hi', hs'.control.journal, hr⟩

end Py

section GivingUp

variable {t : Nat} {cut : StopCut} {s s' : State}

/-- The stop cut without the mark that a stop is in progress. -/
def Lifecycle.Owns (t : Nat) (cut : StopCut) (l : Lifecycle) : Prop :=
  l.stopOwner = some t ∧ l.childGeneration = cut.generation ∧
    l.collectTask = cut.collect ∧ l.monitorTask = cut.monitor

theorem Lifecycle.Holds.owns {l : Lifecycle} (h : l.Holds t cut) :
    l.Owns t cut :=
  ⟨h.owner, h.generation, h.collect, h.monitor⟩

theorem Resting.of_control (h : Resting t s) (hi : s'.Inv)
    (hc : s'.control = s.control) : Resting t s' where
  inv := hi
  cmdLock := hc ▸ h.cmdLock
  runRequestLock := hc ▸ h.runRequestLock
  unmarked := hc ▸ h.unmarked

namespace State

theorem restoreCut_cut (cut : StopCut) (s : State) :
    (s.restoreCut cut).lifecycle.childGeneration =
        s.lifecycle.childGeneration ∧
      (s.restoreCut cut).lifecycle.collectTask = s.lifecycle.collectTask ∧
        (s.restoreCut cut).lifecycle.monitorTask = s.lifecycle.monitorTask ∧
          (s.restoreCut cut).lifecycle.stoppingChildGeneration = none := by
  unfold restoreCut onLifecycle
  dsimp only
  split <;> exact ⟨rfl, rfl, rfl, rfl⟩

theorem owns_retainShutdownHold (h : s.lifecycle.Owns t cut) :
    s.retainShutdownHold.lifecycle.Owns t cut := by
  unfold retainShutdownHold
  split <;> exact h

theorem retainShutdownHold_control (s : State) :
    s.retainShutdownHold.control = s.control := by
  unfold retainShutdownHold
  split <;> rfl

end State

namespace Py

variable {cx : Bool}

theorem restoreShutdownOwnerCut_wp (cut : StopCut) (h : Resting t s)
    (hcut₀ : StopsOwned s.control.journal → s.lifecycle.Owns t cut) :
    wp (taskContract t) cx (restoreShutdownOwnerCut cut)
      (fun _ s' => Withheld t cut s') s := by
  have hrestore : State.Allowed t s (s.restoreCut cut) :=
    State.allowed_onLifecycle (Lifecycle.owned_restoreCut t cut s)
      fun ho => (hcut₀ ho).1
  have h₁ : Resting t (s.restoreCut cut) :=
    h.of_control (hrestore h.inv).1 rfl
  refine wp_updateThen hrestore ?_
  refine wp_seq (resting_observed h₁) ?_ ?_
  · rintro _ s₂ ⟨h₂, hj₂, ⟨_, hr, _⟩ | ⟨_, hcut⟩⟩
    · cases hr
    have hrefresh := State.calm_refresh s₂
    refine wp_sync (fun _ _ hc => hc.allowed t) (hrefresh.allowed t)
      (fun _ => ⟨h₂.calm hrefresh, fun ho => ?_⟩) fun _ _ =>
        .of_refusing ((h₂.calm hrefresh).calm (State.calm_refused _))
          List.mem_cons_self
    have ho₂ := State.stopsOwned_mono
      ((hrefresh h₂.inv).2 t).control.journal ho
    obtain ⟨_, hgen, hcol, hmon⟩ := hcut₀ (State.stopsOwned_mono hj₂ ho₂)
    obtain ⟨r1, r2, r3, r4⟩ := s.restoreCut_cut cut
    rw [State.refresh_lifecycle]
    exact ⟨hcut.generation.trans (r1.trans hgen),
      hcut.collect.trans (r2.trans hcol), hcut.monitor.trans (r3.trans hmon),
      hcut.stopping.trans r4⟩
  · rintro e s₂ ⟨h₂, _, ⟨_, _, hrefusing⟩ | ⟨hr, _⟩⟩
    · exact .of_refusing h₂ hrefusing
    · cases hr

theorem shutdownHold_wp {α : Type} (h : Stopping t cut s) (cancelled : Bool)
    (P : State → Prop) :
    wp (taskContract t) cx (shutdownHold cut cancelled : Py α)
      (OrWithheld t cut P) s := by
  have hlatch := State.calm_beginFaultLatch State.shutdownHoldReason
    .safetyShutdown s
  obtain ⟨hi₁, hs₁⟩ := hlatch h.inv
  have h₁ := h.still (hs₁ t) hi₁
  refine resting_syncThen h.toResting hlatch (fun _ => ?_) fun e s₂ h₂ hr₂ =>
    .of_refusing h₂ hr₂
  generalize (s.beginFaultLatch State.shutdownHoldReason .safetyShutdown).1 = s₁
    at h₁ hi₁
  have hretain : State.Allowed t s₁ s₁.retainShutdownHold := by
    have howned := Lifecycle.owned_retainShutdownHold t s₁
    have hsame : s₁.retainShutdownHold =
        s₁.onLifecycle fun _ => s₁.retainShutdownHold.lifecycle := by
      unfold State.retainShutdownHold
      split <;> rfl
    rw [hsame]
    exact State.allowed_onLifecycle howned fun ho => (h₁.holds ho).owner
  refine wp_updateThen hretain ?_
  have hcontrol := State.retainShutdownHold_control s₁
  have h₂ : Resting t s₁.retainShutdownHold :=
    h₁.toResting.of_control (hretain hi₁).1 hcontrol
  refine wp_seq (restoreShutdownOwnerCut_wp cut h₂ fun ho => ?_) ?_ ?_
  · exact State.owns_retainShutdownHold (h₁.holds (hcontrol ▸ ho)).owns
  · rintro _ s₃ h₃
    unfold raiseIf
    cases cancelled
    · exact h₃
    · exact h₃
  · exact fun e s₃ h₃ => h₃

end Py

end GivingUp

section Demands

variable {t : Nat} {cx : Bool} {cut : StopCut} {s : State}

namespace Py

theorem demandOff_wp (h : Stopping t cut s) (cancelled : Bool) :
    wp (taskContract t) cx (demandOff t cut cancelled) (OrWithheld t cut
      fun s' => s'.Inv ∧ State.Still t s s' ∧
        s'.control.activeSources = ∅ ∧ ProvedOff t s s') s := by
  refine wp_seq (calm_task h.inv ((stable_stopping t cut).covered s h)
    (settledOff_wp none none)) ?_ fun _ _ h => h.1.elim
  rintro ⟨proved, offCancelled⟩ s₁ ⟨⟨_, hproved⟩, hi₁, hs₁⟩
  dsimp only
  cases proved with
  | true =>
      have hdrop := State.calm_dropSources .managerStop s₁
      obtain ⟨hi₂, hs₂⟩ := hdrop hi₁
      exact ⟨hdrop.allowed t, hi₂, hs₁.trans (hs₂ t), rfl,
        (hproved rfl rfl).after (hs₂ t)⟩
  | false => exact shutdownHold_wp (h.still hs₁ hi₁) _ _

theorem demandDrain_wp (h : Stopping t cut s) (owners : List Nat)
    (cancelled : Bool) :
    wp (taskContract t) cx (demandDrain cut owners cancelled) (OrWithheld t cut
      fun s' => s'.Inv ∧ State.Still t s s' ∧
        ∀ id ∈ s.lifecycle.pendingChildFaultSettlements,
          s'.lifecycle.backgroundDone id = true) s := by
  refine wp_seq (calm_task h.inv ((stable_stopping t cut).covered s h)
    (drainChildFaultSettlements_wp owners)) ?_ fun _ _ h => h.1.elim
  rintro ⟨drained, drainCancelled⟩ s₁ ⟨hdrained, hi₁, hs₁⟩
  have h₁ := h.still hs₁ hi₁
  dsimp only
  cases drained with
  | true => exact ⟨hi₁, hs₁, hdrained rfl⟩
  | false =>
      refine wp_seq (restoreShutdownOwnerCut_wp cut h₁.toResting
        fun ho => (h₁.holds ho).owns) ?_ fun _ _ h₂ => h₂
      rintro _ s₂ h₂
      unfold raiseIf
      split
      · exact h₂
      · exact h₂

theorem keeps_stopSources (channels : Finset SmuChannel) :
    Keeps t (Stopping t cut) (stopSources t channels) s := by
  intro h cx
  have hcov := (stable_stopping t cut).covered s h
  refine settling_wp
    (wp_mono (loose_task h.inv (safeOff_wp h.inv hcov _ _ _)) ?_)
  rintro r s₁ ⟨hq₁, hi₁, hd₁⟩
  have hsettle : State.Calm s₁ (s₁.onControl (Control.settleStop t)) :=
    State.calm_onControl (Control.calm_settleStop hq₁.quit)
  obtain ⟨hi₂, hs₂⟩ := hsettle hi₁
  exact ⟨hq₁, h.drift (hd₁.trans (hs₂ t).toDrift) hi₂
    (unmarked_settleStop t _)⟩

theorem keeps_stopTrackedSources :
    Keeps t (Stopping t cut) (stopTrackedSources t) s := by
  have hS := stable_stopping t cut
  refine .bind (.harmless hS (harmless_reconcileHazardousSuccess _)) ?_
  rintro ⟨reason, cancelled⟩ s₁
  refine .read ?_
  split
  · refine .bind (.settled hS fun _ => keeps_stopSources _) fun ⟨r, b⟩ _ => ?_
    exact .bind (.harmless hS (harmless_reconcileHazardousSuccess _))
      fun ⟨_, _⟩ _ => .ret _
  · exact .ret _

theorem raises_stopTrackedSources :
    (stopTrackedSources t).RaisesIn State.Refusing s := by
  refine .bind (raises_reconcileHazardousSuccess _)
    fun ⟨reason, cancelled⟩ s₁ => .read ?_
  split
  · refine .bind (raises_settled _) fun ⟨r, b⟩ _ => ?_
    exact .bind (raises_reconcileHazardousSuccess _) fun ⟨_, _⟩ _ => trivial
  · trivial

theorem orderedProof_wp (h : Stopping t cut s) (before : List Nat)
    (cancelled : Bool) :
    wp (taskContract t) cx (orderedProof t cut before cancelled)
      (OrWithheld t cut (Stopping t cut)) s := by
  refine wp_readThen ?_
  dsimp only
  split
  · exact h
  · refine orWithheld_seq (demandDrain_wp h _ _) ?_
    rintro b s₁ ⟨hi₁, hs₁, _⟩
    have h₁ := h.still hs₁ hi₁
    refine wp_mono (demandOff_wp h₁ b) fun r s₂ h₂ => ?_
    cases r with
    | error e => exact h₂
    | ok b => exact h₁.still h₂.2.1 h₂.1

/-! ## The release of the children -/

theorem consume {s' : State} (h : Stopping t cut s)
    {role : ChildRole} {task : Nat}
    (hs : s' = (s.operatorChildDone task role cut.generation).1)
    (hdone : s.lifecycle.childDone task = true)
    (hchild : s.lifecycle.Holds t cut → s.lifecycle.child role = some task) :
    State.Calm s s' ∧ Stopping t cut s' ∧
      (StopsOwned s'.control.journal →
        task ∈ s'.lifecycle.consumedChildTasks ∧
          s.lifecycle.consumedChildTasks ⊆ s'.lifecycle.consumedChildTasks) := by
  subst hs
  have hcalm := State.calm_operatorChildDone task role cut.generation s
  obtain ⟨hi', hs'⟩ := hcalm h.inv
  refine ⟨hcalm, h.still (hs' t) hi', fun ho => ?_⟩
  have hholds := h.holds
    (State.stopsOwned_mono (hs' t).control.journal ho)
  refine ⟨?_, (State.operatorChildDone_cut task role cut.generation s).2⟩
  rw [← hholds.generation]
  exact State.mem_consumed_operatorChildDone hdone (hchild hholds)

/-- `_operator_child_done` for a child that `stop()` cancelled, if it owned
one. -/
theorem consumeChild_wp {α : Type} (role : ChildRole) {child : Option Nat}
    {k : Unit → Py α} {Q : Except Exc α → State → Prop}
    (h : Stopping t cut s)
    (hdone : ∀ task ∈ child.toList, s.lifecycle.childDone task = true)
    (hchild : s.lifecycle.Holds t cut → s.lifecycle.child role = child)
    (hk : ∀ s₁, Stopping t cut s₁ → State.Still t s s₁ →
      (StopsOwned s₁.control.journal →
        (∀ task ∈ child.toList, task ∈ s₁.lifecycle.consumedChildTasks) ∧
          s.lifecycle.consumedChildTasks ⊆ s₁.lifecycle.consumedChildTasks) →
      wp (taskContract t) cx (k ()) Q s₁)
    (hrefused : ∀ e s₁, Resting t s₁ → s₁.Refusing → Q (.error e) s₁) :
    wp (taskContract t) cx (match child with
      | some task => do
          let r ← sync (State.operatorChildDone task role cut.generation)
          k r
      | none => k ()) Q s := by
  cases child with
  | none =>
      refine hk s h (.refl t s) fun _ => ⟨fun task hm => ?_, List.Subset.refl _⟩
      cases hm
  | some task =>
      obtain ⟨hcalm, h₁, hconsumed⟩ :=
        consume h rfl (hdone task (List.mem_singleton.mpr rfl)) hchild
      refine resting_syncThen h.toResting hcalm
        (fun _ => hk _ h₁ ((hcalm h.inv).2 t) fun ho => ?_) hrefused
      refine ⟨fun c hc => ?_, (hconsumed ho).2⟩
      rw [List.mem_singleton.mp hc]
      exact (hconsumed ho).1

theorem settleChildren_wp (h : Stopping t cut s) (cancelled : Bool) :
    wp (taskContract t) cx (settleChildren cut cancelled)
      (OrWithheld t cut (Quiet t cut)) s := by
  have hS := stable_stopping t cut
  have hcalm : State.Calm s (s.cancelChildren cut) :=
    State.calm_onLifecycle (Lifecycle.calm_cancelChildren cut s)
  obtain ⟨hi₁, hs₁⟩ := hcalm h.inv
  have h₁ := h.still (hs₁ t) hi₁
  refine wp_updateThen (hcalm.allowed t) ?_
  refine wp_returnsThen (R := fun _ s₂ => Stopping t cut s₂ ∧
    ∀ task ∈ cut.tasks, s₂.lifecycle.childDone task = true) ?_ ?_
  · refine wp_settledWait ((hS.covered _ h₁).parked _) ?_
    intro s₂ r b hs₂ hi₂ hen _
    exact ⟨h₁.still hs₂ hi₂, List.all_eq_true.mp hen⟩
  · rintro ⟨r, settleCancelled⟩ s₂ ⟨h₂, hdone₂⟩
    refine consumeChild_wp .collect h₂
      (fun task hm => hdone₂ task (List.mem_append_left _ hm))
      (fun hh => hh.collect) (fun s₃ h₃ hs₃ hconsumed₃ => ?_)
      fun _ _ => .of_refusing
    have hdone₃ : ∀ task ∈ cut.tasks, s₃.lifecycle.childDone task = true :=
      fun task hm => hs₃.lifecycle.children task (hdone₂ task hm)
    refine consumeChild_wp .monitor h₃
      (fun task hm => hdone₃ task (List.mem_append_right _ hm))
      (fun hh => hh.monitor) (fun s₄ h₄ hs₄ hconsumed₄ => ?_)
      fun _ _ => .of_refusing
    refine ⟨h₄, fun ho task hm => ?_,
      fun task hm => hs₄.lifecycle.children task (hdone₃ task hm)⟩
    obtain ⟨hmonitor, hsub⟩ := hconsumed₄ ho
    rcases List.mem_append.mp hm with hcollect | hm
    · exact hsub ((hconsumed₃
        (State.stopsOwned_mono hs₄.control.journal ho)).1 task hcollect)
    · exact hmonitor task hm

theorem stopToRelease_wp (h : Stopping t cut s) :
    wp (taskContract t) cx (stopToRelease t cut)
      (OrWithheld t cut (Released t cut)) s := by
  refine orWithheld_seq (R := Stopping t cut) (wp_mono (wp_raisesIn
    raises_stopTrackedSources (keeps_stopTrackedSources h cx)) ?_) ?_
  · rintro r s₁ ⟨h₁, hr⟩
    cases r with
    | ok _ => exact h₁
    | error e =>
        rcases hr with ⟨_, hr⟩ | hrefusing
        · cases hr
        · exact .of_refusing h₁.toResting hrefusing
  rintro ⟨reason, error, cancelled⟩ s₁ h₁
  refine wp_readThen ?_
  refine orWithheld_seq (demandOff_wp h₁ _) ?_
  rintro b s₂ ⟨hi₂, hs₂, _⟩
  refine orWithheld_seq (orderedProof_wp (h₁.still hs₂ hi₂) _ _) fun b s₃ h₃ => ?_
  refine orWithheld_seq (settleChildren_wp h₃ _) fun b s₄ h₄ => ?_
  refine orWithheld_seq (demandDrain_wp h₄.toStopping _ _) ?_
  rintro b s₅ ⟨hi₅, hs₅, hdrained⟩
  have h₅ := h₄.still hs₅ hi₅
  refine orWithheld_seq (demandOff_wp h₅.toStopping _) ?_
  rintro b s₆ ⟨hi₆, hs₆, hactive, hproved⟩
  exact h₅.released (h₄.drained hs₅ hdrained) hi₆ hs₆ hactive hproved

theorem beginStop_spec (h : Resting t s)
    (hnone : s.lifecycle.stoppingChildGeneration = none) :
    State.Allowed t s (s.beginStop t).1 ∧
      Stopping t s.stopCut (s.beginStop t).1 := by
  have hnote : State.Allowed t s (s.note (.stopBegan t
      (s.lifecycle.collectTask.isSome || s.lifecycle.monitorTask.isSome)
      s.lifecycle.pendingChildFaultSettlements)) :=
    State.allowed_of_control rfl rfl rfl
      (.own (.note _ _ rfl (fun hl => (by cases hl)) trivial
        fun _ hc => hc))
  generalize hn : Note.stopBegan t
    (s.lifecycle.collectTask.isSome || s.lifecycle.monitorTask.isSome)
    s.lifecycle.pendingChildFaultSettlements = n at hnote
  have habort : State.Calm (s.note n)
      ((s.note n).onControl (Control.registerAbortIntent true)) :=
    State.calm_onControl (Control.calm_abort true _)
  have hcut : State.Calm ((s.note n).onControl
      (Control.registerAbortIntent true)) (s.beginStop t).1 := by
    refine State.calm_of (by simp [State.beginStop])
      (by simp [State.beginStop]) ?_ ?_
    · simpa [State.beginStop, hn] using Control.Calm.refl _
    · simp only [State.beginStop, State.refresh_lifecycle,
        State.revokeReviewedSource_lifecycle, State.onLifecycle_lifecycle,
        State.onControl_lifecycle, State.note_lifecycle]
      exact .of_unstopped rfl (fun _ h => h) rfl rfl (by simp [hnone])
  have hallowed := (hnote.trans (habort.allowed t)).trans (hcut.allowed t)
  have hcontrol : (s.beginStop t).1.control =
      (s.control.note n).registerAbortIntent true := by
    simp [State.beginStop, hn]
  refine ⟨hallowed, ⟨⟨⟨(hallowed h.inv).1, ?_, ?_⟩, ?_⟩, fun ho => ?_⟩⟩
  · rw [hcontrol]
    exact h.cmdLock
  · rw [hcontrol]
    exact h.runRequestLock
  · rw [hcontrol]
    exact h.unmarked
  · simp only [State.beginStop, State.refresh_lifecycle,
      State.revokeReviewedSource_lifecycle, State.onLifecycle_lifecycle,
      State.onControl_lifecycle, State.note_lifecycle]
    refine ⟨rfl, rfl, rfl, rfl, rfl, fun hempty => ?_⟩
    have howned : n.upsetsStop = false := ho n (by simp [hcontrol,
      Control.registerAbortIntent, Control.note])
    obtain ⟨hcollect, hmonitor⟩ := List.append_eq_nil_iff.mp hempty
    have hc : s.lifecycle.collectTask = none := by
      simpa [State.stopCut] using hcollect
    have hm : s.lifecycle.monitorTask = none := by
      simpa [State.stopCut] using hmonitor
    rw [← hn] at howned
    simpa [Note.upsetsStop, hc, hm] using howned

/-- What the note about the end of a `stop()` rests on. -/
structure Concluded (t : Nat) (cut : StopCut) (released returned : Bool)
    (s : State) : Prop extends Resting t s where
  returned : returned = true → released = true
  proved : released = true → StopsOwned s.control.journal →
    s.control.activeSources = ∅ ∧ ∃ proof : OffProof,
      .outputOffProved proof ∈ s.control.journal ∧ proof.task = t ∧
        proof.confirmed = true ∧ proof.unsettled = [] ∧
          proof.settlements = s.lifecycle.settlements ∧
            ∀ child ∈ cut.tasks, child ∈ proof.terminal
  retained : released = false → Withheld t cut s

theorem noteStop_wp {released returned : Bool}
    (h : Concluded t cut released returned s) :
    wp (taskContract t) cx (noteStop t cut released returned)
      (fun _ s' => Resting t s') s := by
  refine wp_readThen ?_
  have hallowed : ∀ e : StopExit, e.task = t →
      (StopsOwned s.control.journal → e.Orderly s.control.journal) →
      State.Allowed t s (s.note (.stopEnded e)) := by
    intro e he hj
    exact State.allowed_of_control rfl rfl rfl
      (.own (.note _ _ (congrArg some he) (fun hl => (by cases hl)) hj
        fun _ hc => hc))
  have hjust := hallowed
    { task := t
      returned := returned
      released := released
      generation := cut.generation
      collect := cut.collect
      monitor := cut.monitor
      generationAfter := s.lifecycle.childGeneration
      collectAfter := s.lifecycle.collectTask
      monitorAfter := s.lifecycle.monitorTask
      stoppingAfter := s.lifecycle.stoppingChildGeneration
      pendingAfter := s.lifecycle.pendingChildFaultSettlements
      settlements := s.lifecycle.settlements
      unsettled := s.lifecycle.unsettled
      activeSources := s.control.activeSources } rfl ?_
  · refine ⟨hjust, ?_⟩
    exact ⟨⟨(hjust h.inv).1, h.cmdLock, h.runRequestLock⟩, h.unmarked⟩
  · intro ho
    refine ⟨h.returned, fun hr => ?_, fun hr => ?_⟩
    · obtain ⟨hactive, proof, hmem, htask, hc, hu, hn, ht⟩ := h.proved hr ho
      exact ⟨⟨proof, hmem, htask, hc, hu, hn, ht⟩, hactive⟩
    · obtain ⟨hgen, hcol, hmon, hstop⟩ := (h.retained hr).retained ho
      exact ⟨hgen, hcol, hmon, hstop, h.inv.lifecycle.pending⟩

theorem releaseChildren_background (cut : StopCut) (s : State) :
    (s.releaseChildren cut).lifecycle.background = s.lifecycle.background := by
  unfold State.releaseChildren State.onLifecycle
  dsimp only
  obtain ⟨stopping, hs, _⟩ := Lifecycle.completeStoppingGenerationIfSettled_eq
    (some cut.generation)
    (cut.tasks.foldl (fun l c => l.forgetConsumedChildIfUnowned c)
      (if s.lifecycle.childGeneration = cut.generation then
        { s.lifecycle with
          collectTask :=
            if s.lifecycle.collectTask = cut.collect then none
            else s.lifecycle.collectTask
          monitorTask :=
            if s.lifecycle.monitorTask = cut.monitor then none
            else s.lifecycle.monitorTask }
      else s.lifecycle))
  rw [hs]
  dsimp only
  obtain ⟨consumed, hc⟩ := Lifecycle.forgetConsumedChildren_eq cut.tasks _
  rw [hc]
  split <;> rfl

theorem releaseChildren_spec {returned : Bool} (h : Released t cut s) :
    State.Allowed t s (s.releaseChildren cut) ∧
      Concluded t cut true returned (s.releaseChildren cut) := by
  have hallowed : State.Allowed t s (s.releaseChildren cut) :=
    State.allowed_onLifecycle (Lifecycle.owned_releaseChildren t cut s)
      fun ho => (h.holds ho).owner
  refine ⟨hallowed, ⟨h.toResting.of_control (hallowed h.inv).1 rfl,
    fun _ => rfl, fun _ ho => ⟨h.inactive, ?_⟩, fun hr => (by cases hr)⟩⟩
  obtain ⟨proof, hmem, htask, hc, hu, hn, ht⟩ := h.proved ho
  refine ⟨proof, hmem, htask, hc, hu, hn.trans ?_, ht⟩
  unfold Lifecycle.settlements
  rw [releaseChildren_background]

/-- `stop()` from its cut to the release of its children. -/
theorem beginStop_wp (h : Resting t s)
    (hnone : s.lifecycle.stoppingChildGeneration = none) :
    wp (taskContract t) cx (do
      sync (State.beginStop t)
      stopToRelease t s.stopCut)
      (OrWithheld t s.stopCut (Released t s.stopCut)) s := by
  obtain ⟨hbegin, h₁⟩ := beginStop_spec h hnone
  refine wp_syncThen (fun _ _ hc => hc.allowed t) hbegin
    (fun _ => stopToRelease_wp h₁) fun e _ => ?_
  exact .of_refusing (h₁.toResting.calm (State.calm_refused _))
    List.mem_cons_self

theorem keeps_stop : Keeps t (Resting t) (stop t) s := by
  refine .read ?_
  split
  · exact .raise _
  · rename_i hidle
    intro h cx
    have hnone : s.lifecycle.stoppingChildGeneration = none := by
      simpa using hidle
    refine wp_seq (resting_observed h) ?_ fun _ _ hr => hr.1
    rintro _ s₁ ⟨h₁, _, ⟨_, hr, _⟩ | ⟨_, hcut⟩⟩
    · cases hr
    refine wp_readThen ?_
    refine wp_attemptThen (wp_mono (beginStop_wp h₁ (hcut.stopping.trans hnone))
      fun r s₃ h₃ => ?_)
    cases r with
    | error e =>
        have h₃ : Withheld t _ s₃ := h₃
        refine wp_seq (noteStop_wp ⟨h₃.toResting,
          fun hr => (by cases hr), fun hr => (by cases hr), fun _ => h₃⟩) ?_
          fun _ _ hr => hr
        exact fun _ s₄ h₄ => h₄
    | ok outcome =>
        obtain ⟨reason, error, cancelled⟩ := outcome
        obtain ⟨hrelease, h₄⟩ := releaseChildren_spec h₃
        refine wp_updateThen hrelease ?_
        refine wp_seq (noteStop_wp h₄) ?_ fun _ _ hr => hr
        intro _ s₅ h₅
        refine (?rest : Keeps t (Resting t) _ s₅) h₅ cx
        refine .bind (.harmless (stable_resting t) (.raiseIf _)) fun _ _ => ?_
        split
        · exact .raise _
        · exact .raise _
        · exact .ret _

/-! ## Starting, and what is set from outside -/

theorem calm_recordReviewedSourceConnected (verifiedOff : Bool) (s : State) :
    State.Calm s (s.recordReviewedSourceConnected verifiedOff).1 := by
  unfold State.recordReviewedSourceConnected
  dsimp only
  refine State.Calm.trans ?_ (State.calm_refresh _)
  split <;> exact .of_same rfl rfl rfl rfl

theorem harmless_recordReviewedSourceConnected (verifiedOff : Bool) :
    Harmless t (recordReviewedSourceConnected verifiedOff) s := by
  refine .read ?_
  split
  · exact .raise _
  · exact .sync (calm_recordReviewedSourceConnected _ _)

theorem harmless_start : Harmless t start s := by
  refine .read ?_
  have hlast : ∀ s₁, Harmless t (do
      publishState
      publishKeithleyChannelStates
      observeTerminalSafetyChildren
      let s ← Coro.read
      if s.safetyChildrenAuthoritative then pure ()
      else
        Coro.raise (.raised .runtimeError
          "SafetyManager children did not establish live authority")) s₁ := by
    intro s₁
    refine .bind harmless_publishState fun _ _ => ?_
    refine .bind harmless_publishKeithleyChannelStates fun _ _ => ?_
    refine .bind .observeTerminalSafetyChildren fun _ s₂ => .read ?_
    split
    · exact .ret _
    · exact .raise _
  split_ifs with hpending hstopping howned
  · exact .raise _
  · exact .raise _
  · exact .bind .observeTerminalSafetyChildren fun _ _ => .raise _
  · have hnone : s.lifecycle.stoppingChildGeneration = none := by
      simpa using hstopping
    refine .updateThen
      (State.calm_onLifecycle (Lifecycle.calm_startChildren hnone)) (.read ?_)
    dsimp only
    split
    · split
      · exact .bind (.raise _) fun _ => hlast
      · exact .bind (.sync (calm_recordReviewedSourceConnected _ _))
          fun _ => hlast
    · exact .bind .refresh fun _ => hlast

theorem harmless_replaceOperatorChild (role : ChildRole) (task : Nat) :
    Harmless t (replaceOperatorChild role task) s := by
  refine .read ?_
  split
  · exact .raise _
  · exact .ret _
  · rename_i current hrefusal hcurrent
    split
    · exact .ret _
    · rename_i hne
      refine .syncThen (State.calm_operatorChildDone _ _ _ s) (.update ?_)
      have hcut := (State.operatorChildDone_cut current role
        s.lifecycle.childGeneration s).1
      refine State.calm_of rfl rfl (.refl _) (Lifecycle.calm_adoptChild ?_)
      rw [hcut.generation, hcut.stopping]
      intro hstopping
      simp only [State.replaceChildRefusal, hcurrent, hne, hstopping,
        if_true, if_false] at hrefusal
      split_ifs at hrefusal

/-! ## The retained tasks -/

/-- A task that runs the retained task `id`. -/
structure Serving (t id : Nat) (s : State) : Prop extends Resting t s where
  begun : ∃ b, s.lifecycle.background[id]? = some b ∧ b.status ≠ .created

theorem stable_serving (t id : Nat) : Stable t (Serving t id) where
  inv := fun _ h => h.inv
  covered := fun s h => (stable_resting t).covered s h.toResting
  still := by
    rintro s s' h hs hi
    obtain ⟨b, hb, hbegun⟩ := h.begun
    obtain ⟨b', hb', hfollows⟩ := hs.lifecycle.tasks id b hb
    refine ⟨(stable_resting t).still s s' h.toResting hs hi, b', hb', ?_⟩
    intro hcreated
    have hrank := hfollows.rank
    rw [hcreated] at hrank
    cases hstatus : b.status with
    | created => exact hbegun hstatus
    | started since => simp [hstatus, BackgroundStatus.rank] at hrank
    | finished outcome => simp [hstatus, BackgroundStatus.rank] at hrank

theorem keeps_finish (id : Nat) (outcome : Outcome) :
    Keeps t (Serving t id) (Coro.update (State.onLifecycle
      (Lifecycle.setBackground id (.finished outcome)))) s := by
  intro h cx
  obtain ⟨b, hb, hbegun⟩ := h.begun
  have hcalm : State.Calm s (s.onLifecycle
      (Lifecycle.setBackground id (.finished outcome))) := by
    refine State.calm_onLifecycle (Lifecycle.calm_finish outcome ?_)
    intro b' hb'
    rw [hb] at hb'
    exact Option.some.inj hb' ▸ hbegun
  exact ⟨hcalm.allowed t, (stable_serving t id).calm h hcalm⟩

theorem keeps_runGlobalOutputOff (id : Nat) :
    Keeps t (Serving t id) (runGlobalOutputOff id) s := by
  have hV := stable_serving t id
  refine .bind (.harmless hV (.settledWait _)) fun ⟨first, _⟩ s₁ => ?_
  dsimp only
  split
  · refine .bind (.harmless hV (.note trivial trivial)) fun _ _ => ?_
    exact .bind (.harmless hV (.settledWait _)) fun _ _ => keeps_finish _ _
  · exact keeps_finish _ _

theorem keeps_runFaultSettlement (id : Nat) :
    Keeps t (Serving t id) (runFaultSettlement t id) s :=
  .bind (.harmless (stable_serving t id) (.settle false
    harmless_settleLatchedFault)) fun _ _ => keeps_finish _ _

theorem keeps_runBackground (id : Nat) (kind : BackgroundKind) :
    Keeps t (Serving t id) (runBackground t id kind) s := by
  cases kind with
  | globalOutputOff => exact keeps_runGlobalOutputOff id
  | faultSettlement reason source => exact keeps_runFaultSettlement id

end Py

end Demands

end Safety
end CryoDaq
