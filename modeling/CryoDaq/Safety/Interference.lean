import CryoDaq.Safety.Frames
import CryoDaq.Safety.Ownership
import CryoDaq.Safety.Steps

/-!
# Interference between the tasks of the manager

The control part and the lifecycle part put together: what holds of every
state, what a task may assume of the others, and which updates are harmless to
everybody.

**Two kinds of update.**  A `Calm` update is interference for every task, the
one that makes it included; most updates are of this kind.  A `Loose` update
may also make its task a stop owner, which that task has to answer for.
-/

namespace CryoDaq
namespace Safety

open Async Journal

namespace Control

variable {t u : Nat} {c c' c'' : Control}

/-- A control update that is harmless to everybody. -/
structure Calm (c c' : Control) : Prop where
  inv : c.Inv → c'.Inv
  drift : ∀ t, Drift t c c'
  marks : ∀ t, t ∈ c'.stopOwners → t ∈ c.stopOwners

theorem Calm.refl (c : Control) : Calm c c := ⟨id, fun t => .refl t c, fun _ h => h⟩

theorem Move.calm (h : Move t c c')
    (hmarks : t ∈ c'.stopOwners → t ∈ c.stopOwners) : Calm c c' where
  inv := fun hi => hi.move h
  drift := fun _ => h.drift
  marks := by
    intro u hu
    by_cases ht : t = u
    · subst ht
      exact hmarks hu
    · exact ((Step.move h).stopOwners ht).mp hu

theorem calm_note {n : Note} (t : Nat) (hn : PlainNote t n)
    (hj : n.Justified c.journal) : Calm c (c.note n) :=
  (Move.note c n hn hj).calm fun h => h

theorem calm_abort (full : Bool) (c : Control) :
    Calm c (c.registerAbortIntent full) :=
  (Move.abort (t := 0) c full).calm fun h => h

theorem calm_settleStop (h : c.Quit t) : Calm c (c.settleStop t) :=
  (Move.settleStop c h).calm fun hm => (Finset.mem_erase.mp hm).2

theorem leaveStop_unmarked (t : Nat) (site : GiveUpSite) (c : Control) :
    t ∉ (c.leaveStop t site).stopOwners := by
  unfold leaveStop
  split
  · simp [giveUp, note, settleStop]
  · assumption

theorem calm_leaveStop (t : Nat) (site : GiveUpSite) (c : Control) :
    Calm c (c.leaveStop t site) :=
  (Move.leaveStop c site).calm fun h =>
    absurd h (leaveStop_unmarked t site c)

theorem calm_parkStop (t : Nat) (c : Control) : Calm c (c.parkStop t) := by
  unfold parkStop
  split
  · exact .refl c
  · exact calm_leaveStop t .managerStop c

theorem calm_keepSources {site : GiveUpSite} {keep : Finset SmuChannel}
    (hk : keep ⊆ c.activeSources) : Calm c (c.keepSources site keep) :=
  (Move.keepSources (t := 0) c site keep hk).calm fun h => h

theorem calm_beginFaultLatch (reason : String) (source : FaultSource)
    (c : Control) : Calm c (c.beginFaultLatch reason source) :=
  (Move.beginFaultLatch (t := 0) c reason source).calm fun h => by
    unfold beginFaultLatch at h
    split at h <;> exact h

theorem calm_keepAndMove {keep : Finset SmuChannel} {after : SafetyState}
    {reason : TransitionReason} (hk : keep ⊆ c.activeSources)
    (hs : c.state ≠ .faultLatched) (hto : Leads c.state keep after) :
    Calm c (c.keepAndMove keep after reason) :=
  (Move.keepAndMove (t := 0) c keep after reason hk hs hto).calm fun h => h

theorem calm_transition {after : SafetyState} {reason : TransitionReason}
    (hs : c.state ≠ .faultLatched) (hto : Leads c.state c.activeSources after) :
    Calm c (c.transition after reason) :=
  calm_keepAndMove (Finset.Subset.refl _) hs hto

end Control

namespace State

variable {t u : Nat} {s s' s'' : State}

structure Inv (s : State) : Prop where
  control : s.control.Inv
  lifecycle : s.lifecycle.Inv
  requested : ∀ id since : Nat,
    s.lifecycle.background[id]? = some
        (⟨.globalOutputOff, .started since⟩ : BackgroundTask) →
      s.control.journal.reverse[since]? = some (.offRequested none)

/-- What task `t` may assume of everything that happens while it is
suspended, and what a run of harmless updates of its own amounts to. -/
structure Drift (t : Nat) (s s' : State) : Prop where
  control : s.control.Drift t s'.control
  lifecycle : s.lifecycle.Drift t (StopsOwned s'.control.journal)
    (.offRequested none ∈ added s.control.journal s'.control.journal)
    s'.lifecycle
  wiring : s'.wiring = s.wiring
  driver : s'.env.driver.isSome = s.env.driver.isSome

/-- The same, and the task did not become a stop owner. -/
structure Still (t : Nat) (s s' : State) : Prop extends Drift t s s' where
  unmarked : t ∈ s'.control.stopOwners → t ∈ s.control.stopOwners

/-- An update that is harmless to everybody. -/
def Calm (s s' : State) : Prop := s.Inv → s'.Inv ∧ ∀ t, Still t s s'

/-- An update that is harmless except that task `t` may become a stop
owner. -/
def Loose (t : Nat) (s s' : State) : Prop :=
  s.Inv → s'.Inv ∧ Drift t s s' ∧ ∀ u, t ≠ u → Still u s s'

/-- An update that task `t` may make. -/
def Allowed (t : Nat) (s s' : State) : Prop :=
  s.Inv → s'.Inv ∧ ∀ u, t ≠ u → Still u s s'

theorem stopsOwned_mono {j j' : List Note} (h : j <:+ j') :
    StopsOwned j' → StopsOwned j :=
  fun ho n hn => ho n (h.subset hn)

theorem Drift.refl (t : Nat) (s : State) : Drift t s s where
  control := .refl t _
  lifecycle := .refl t _ _ _
  wiring := rfl
  driver := rfl

theorem Drift.trans (h : Drift t s s') (h' : Drift t s' s'') :
    Drift t s s'' where
  control := h.control.trans h'.control
  lifecycle := h.lifecycle.trans h'.lifecycle
    (stopsOwned_mono h'.control.journal) fun hoff =>
      (mem_added_trans h.control.journal h'.control.journal _).mpr hoff.symm
  wiring := h'.wiring.trans h.wiring
  driver := h'.driver.trans h.driver

theorem Still.refl (t : Nat) (s : State) : Still t s s :=
  ⟨.refl t s, fun h => h⟩

theorem Still.trans (h : Still t s s') (h' : Still t s' s'') :
    Still t s s'' :=
  ⟨h.toDrift.trans h'.toDrift, fun hm => h.unmarked (h'.unmarked hm)⟩

theorem Calm.refl (s : State) : Calm s s := fun hi => ⟨hi, fun t => .refl t s⟩

theorem Calm.trans (h : Calm s s') (h' : Calm s' s'') : Calm s s'' := by
  intro hi
  obtain ⟨hi', hs⟩ := h hi
  obtain ⟨hi'', hs'⟩ := h' hi'
  exact ⟨hi'', fun t => (hs t).trans (hs' t)⟩

theorem Calm.loose (h : Calm s s') (t : Nat) : Loose t s s' :=
  fun hi => ⟨(h hi).1, ((h hi).2 t).toDrift, fun u _ => (h hi).2 u⟩

theorem Loose.allowed (h : Loose t s s') : Allowed t s s' :=
  fun hi => ⟨(h hi).1, (h hi).2.2⟩

theorem Calm.allowed (h : Calm s s') (t : Nat) : Allowed t s s' :=
  (h.loose t).allowed

theorem Loose.trans (h : Loose t s s') (h' : Loose t s' s'') :
    Loose t s s'' := by
  intro hi
  obtain ⟨hi', hd, hs⟩ := h hi
  obtain ⟨hi'', hd', hs'⟩ := h' hi'
  exact ⟨hi'', hd.trans hd', fun u hu => (hs u hu).trans (hs' u hu)⟩

theorem Allowed.trans (h : Allowed t s s') (h' : Allowed t s' s'') :
    Allowed t s s'' := by
  intro hi
  obtain ⟨hi', hs⟩ := h hi
  obtain ⟨hi'', hs'⟩ := h' hi'
  exact ⟨hi'', fun u hu => (hs u hu).trans (hs' u hu)⟩

/-! ## Updates from their parts -/

theorem requested_mono (h : s.Inv) (hj : s.control.journal <:+ s'.control.journal)
    (hb : s.lifecycle.Unbegun s'.lifecycle) {id since : Nat}
    (hs : s'.lifecycle.background[id]? = some
      (⟨.globalOutputOff, .started since⟩ : BackgroundTask)) :
    s'.control.journal.reverse[since]? = some (.offRequested none) := by
  obtain ⟨d, hd⟩ := hj
  have hold := h.requested id since (hb id since hs)
  rw [← hd, List.reverse_append,
    List.getElem?_append_left (List.getElem?_eq_some_iff.mp hold).1]
  exact hold

section Parts

variable (hw : s'.wiring = s.wiring)
  (hd : s'.env.driver.isSome = s.env.driver.isSome)

include hw hd

theorem calm_of (hc : s.control.Calm s'.control)
    (hl : s.lifecycle.Calm s'.lifecycle) : Calm s s' := by
  intro hi
  refine ⟨⟨hc.inv hi.control, hl.inv hi.lifecycle, fun id since h =>
    requested_mono hi (hc.drift 0).journal hl.begun h⟩, fun t => ?_⟩
  refine ⟨⟨hc.drift t, ?_, hw, hd⟩, hc.marks t⟩
  exact (hl.drift t _).trans (.refl t _ False _) id (by simp)

theorem loose_of (hm : Control.Move t s.control s'.control)
    (hl : s.lifecycle.Calm s'.lifecycle) : Loose t s s' := by
  intro hi
  have hlife : ∀ u, s.lifecycle.Drift u (StopsOwned s'.control.journal)
      (.offRequested none ∈ added s.control.journal s'.control.journal)
      s'.lifecycle :=
    fun u => (hl.drift u _).trans (.refl u _ False _) id (by simp)
  have hdrift : s.control.Drift t s'.control := hm.drift
  refine ⟨⟨hi.control.move hm, hl.inv hi.lifecycle, fun id since h =>
    requested_mono hi hdrift.journal hl.begun h⟩, ⟨hdrift, hlife t, hw, hd⟩,
    fun u hu => ⟨⟨hm.drift, hlife u, hw, hd⟩,
      ((Control.Step.move hm).stopOwners hu).mp⟩⟩

end Parts

theorem allowed_of_control (hw : s'.wiring = s.wiring)
    (hd : s'.env.driver.isSome = s.env.driver.isSome)
    (hl : s'.lifecycle = s.lifecycle)
    (hstep : Control.Step t s.control s'.control) : Allowed t s s' := by
  intro hi
  have hj : s.control.journal <:+ s'.control.journal :=
    (hstep.drift (Nat.ne_of_lt (Nat.lt_succ_self t))).journal
  refine ⟨⟨hi.control.step hstep, hl ▸ hi.lifecycle, fun id since h =>
    requested_mono hi hj (.of_background (congrArg _ hl)) h⟩, fun u hu => ?_⟩
  refine ⟨⟨hstep.drift hu, ?_, hw, hd⟩, (hstep.stopOwners hu).mp⟩
  rw [hl]
  exact .refl u _ _ _

theorem allowed_onLifecycle {f : Lifecycle → Lifecycle}
    (hl : s.lifecycle.Owned t (f s.lifecycle))
    (howner : StopsOwned s.control.journal →
      s.lifecycle.stopOwner = some t) : Allowed t s (s.onLifecycle f) := by
  intro hi
  refine ⟨⟨hi.control, hl.inv hi.lifecycle, fun id since h =>
    hi.requested id since (hl.begun id since h)⟩, fun u hu => ?_⟩
  refine ⟨⟨.refl u _, ?_, rfl, rfl⟩, fun h => h⟩
  exact (hl.drift u _ hu howner).trans (.refl u _ False _) id (by simp)

theorem Calm.of_same (hc : s'.control = s.control)
    (hl : s'.lifecycle = s.lifecycle) (hw : s'.wiring = s.wiring)
    (hd : s'.env.driver.isSome = s.env.driver.isSome) : Calm s s' :=
  calm_of hw hd (hc ▸ .refl _) (hl ▸ .refl _)

theorem calm_onControl {f : Control → Control}
    (h : s.control.Calm (f s.control)) : Calm s (s.onControl f) :=
  calm_of rfl rfl h (.refl _)

theorem calm_onLifecycle {f : Lifecycle → Lifecycle}
    (h : s.lifecycle.Calm (f s.lifecycle)) : Calm s (s.onLifecycle f) :=
  calm_of rfl rfl (.refl _) h

theorem loose_onControl {f : Control → Control}
    (h : Control.Move t s.control (f s.control)) :
    Loose t s (s.onControl f) :=
  loose_of rfl rfl h (.refl _)

theorem calm_refresh (s : State) : Calm s s.refreshOperatorSafetySnapshot.1 :=
  .of_same (by simp) (by simp) (by simp) (by simp)

theorem calm_settleOutputOff (scope : Option SmuChannel) (result : Outcome)
    (s : State) : Calm s (s.settleOutputOff scope result).1 := by
  unfold settleOutputOff
  dsimp only
  refine Calm.trans ?_ (calm_refresh _)
  split_ifs <;> exact .of_same rfl rfl rfl rfl

theorem calm_note {n : Note} (t : Nat) (hn : Control.PlainNote t n)
    (hj : n.Justified s.control.journal) : Calm s (s.note n) :=
  calm_onControl (Control.calm_note t hn hj)

theorem calm_beginFaultLatch (reason : String) (source : FaultSource)
    (s : State) : Calm s (s.beginFaultLatch reason source).1 :=
  calm_of (by simp) (by simp)
    (by simpa using Control.calm_beginFaultLatch reason source s.control)
    (by simpa using Lifecycle.Calm.refl s.lifecycle)

theorem calm_keepSources {site : GiveUpSite} {keep : Finset SmuChannel}
    (hk : keep ⊆ s.control.activeSources) :
    Calm s (s.keepSources site keep) :=
  calm_onControl (Control.calm_keepSources hk)

theorem calm_dropSources (site : GiveUpSite) (s : State) :
    Calm s (s.keepSources site ∅) :=
  calm_keepSources (Finset.empty_subset _)

theorem calm_transition {after : SafetyState} {reason : TransitionReason}
    (hs : s.control.state ≠ .faultLatched)
    (hto : Control.Leads s.control.state s.control.activeSources after) :
    Calm s (s.transition after reason).1 :=
  calm_of (by simp) (by simp) (by simpa using Control.calm_transition hs hto)
    (by simpa using Lifecycle.Calm.refl s.lifecycle)

theorem calm_keepAndMove {keep : Finset SmuChannel} {after : SafetyState}
    {reason : TransitionReason} (hk : keep ⊆ s.control.activeSources)
    (hs : s.control.state ≠ .faultLatched)
    (hto : Control.Leads s.control.state keep after) :
    Calm s (s.keepAndMove keep after reason).1 :=
  calm_of (by simp) (by simp)
    (by simpa using Control.calm_keepAndMove hk hs hto)
    (by simpa using Lifecycle.Calm.refl s.lifecycle)

theorem andThen_cases (r : State × Option Exc)
    (f : State → State × Option Exc) :
    (r.2 = none ∧ andThen r f = f r.1) ∨ (r.2.isSome ∧ andThen r f = r) := by
  unfold andThen
  cases h : r.2 <;> simp

@[simp]
theorem faultAndRefresh_parts (reason : String) (source : FaultSource)
    (s : State) :
    (andThen (s.beginFaultLatch reason source)
        refreshOperatorSafetySnapshot).1.control =
        s.control.beginFaultLatch reason source ∧
      (andThen (s.beginFaultLatch reason source)
        refreshOperatorSafetySnapshot).1.lifecycle = s.lifecycle ∧
      (andThen (s.beginFaultLatch reason source)
        refreshOperatorSafetySnapshot).1.wiring = s.wiring ∧
      (andThen (s.beginFaultLatch reason source)
        refreshOperatorSafetySnapshot).1.env = s.env := by
  rcases andThen_cases (s.beginFaultLatch reason source)
    refreshOperatorSafetySnapshot with ⟨-, he⟩ | ⟨-, he⟩ <;> simp [he]

theorem calm_operatorChildDone (task : Nat) (role : ChildRole)
    (generation : Nat) (s : State) :
    Calm s (s.operatorChildDone task role generation).1 := by
  unfold operatorChildDone
  split
  · exact .refl s
  · rename_i outcome _
    split_ifs with hconsumed hforeign
    · exact .refl s
    · exact .refl s
    · have hchild : s.lifecycle.child role = some task :=
        not_not.mp (not_or.mp hforeign).2
      dsimp only
      split_ifs
      · exact calm_of rfl rfl (.refl _) (Lifecycle.calm_consume task _)
      · rcases andThen_cases _ _ with ⟨-, he⟩ | ⟨-, he⟩
        · rw [he]
          exact calm_of (by simp) (by simp)
            (by simpa using Control.calm_beginFaultLatch _ _ s.control)
            (by
              simpa using Lifecycle.calm_childFault hchild hconsumed false
                (some role) _ _ role.faultSource)
        · rw [he]
          exact calm_of (by simp) (by simp)
            (by simpa using Control.calm_beginFaultLatch _ _ s.control)
            (by
              simpa using Lifecycle.calm_childFlags false (some role) _)

theorem calm_observeTerminalChild (role : ChildRole) (s : State) :
    Calm s (s.observeTerminalChild role).1 := by
  unfold observeTerminalChild
  split
  · split
    · exact calm_operatorChildDone _ _ _ s
    · exact .refl s
  · exact .refl s

theorem calm_createGlobalOff (required : Nat) (s : State) :
    Calm s (s.createGlobalOff required) :=
  calm_onLifecycle (Lifecycle.calm_createGlobalOff _ _ _)

theorem calm_releaseGlobalOff (id : Nat) (s : State) :
    Calm s (s.releaseGlobalOff id) := by
  have h := Lifecycle.calm_releaseGlobalOff id s
  unfold releaseGlobalOff at h ⊢
  split at h
  · rename_i hif
    rw [if_pos hif]
    exact calm_of rfl rfl (.refl _) h
  · rename_i hif
    rw [if_neg hif]
    exact .refl s

theorem calm_settleLatchedCut (confirmed : Bool) (s : State) :
    Calm s (s.settleLatchedCut confirmed).1 := by
  have hdrop : Calm s
      (if confirmed then s.keepSources .lateFaultSettlement ∅ else s) := by
    split
    · exact calm_dropSources _ s
    · exact .refl s
  unfold settleLatchedCut
  refine hdrop.trans (Calm.trans ?_ (calm_refresh _))
  split_ifs <;> exact .of_same rfl rfl rfl rfl

end State

end Safety
end CryoDaq
