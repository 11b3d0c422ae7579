import CryoDaq.Safety.ShutdownPath

/-!
# Every run of the manager

The contracts of the operations put together: `discipline` is the contract of
every task, every launched operation keeps it, and so every reachable pool is
sound.

**Reading results off.**  A property of every reachable manager is a
consequence of `reachable_inv`; a property of the entries of its journal is a
consequence of `reachable_justified`.
-/

namespace CryoDaq
namespace Safety

open Async Journal

namespace State

variable {s s' : State}

theorem calm_childModify {f : ChildTask → ChildTask} (task : Nat) (s : State)
    (hf : ∀ child, s.lifecycle.children[task]? = some child →
      child.outcome.isSome = true → (f child).outcome.isSome = true) :
    Calm s (s.onLifecycle fun l =>
      { l with children := l.children.modify task f }) :=
  calm_onLifecycle (.of_cut rfl
    (fun _ h => Lifecycle.childDone_modify rfl hf h) rfl rfl rfl rfl rfl rfl
    (List.Subset.refl _) fun _ h => h)

theorem calm_logged {r : State × Option Exc} (h : Calm s r.1) :
    Calm s (logged r) := by
  unfold logged
  split
  · exact h
  · exact h.trans (calm_refused _)

theorem calm_event {e : Event} (h : s.event e = some s') : Calm s s' := by
  cases e with
  | tick ticks =>
      obtain rfl := Option.some.inj h
      exact .of_same rfl rfl rfl rfl
  | driverReports driver =>
      obtain ⟨d, hd, rfl⟩ := Option.map_eq_some_iff.mp h
      exact .of_same rfl rfl rfl (by simp [hd])
  | setPersistenceRecovered hook =>
      obtain rfl := Option.some.inj h
      exact .of_same rfl rfl rfl rfl
  | setInterlockRearm hook =>
      obtain rfl := Option.some.inj h
      exact .of_same rfl rfl rfl rfl
  | setRates rates =>
      obtain rfl := Option.some.inj h
      exact .of_same rfl rfl rfl rfl
  | childCreated =>
      obtain rfl := Option.some.inj h
      exact calm_onLifecycle (.of_cut rfl
        (fun _ h => Lifecycle.childDone_append rfl h) rfl rfl rfl rfl rfl rfl
        (List.Subset.refl _) fun _ h => h)
  | childCancelRequested task =>
      obtain rfl := Option.some.inj h
      exact calm_childModify task s fun _ _ hdone => hdone
  | childEnds task outcome =>
      simp only [event] at h
      split at h
      · obtain rfl := Option.some.inj h
        exact calm_childModify task s fun _ _ _ => rfl
      · cases h
  | childCallback callback =>
      simp only [event] at h
      split at h
      · obtain rfl := Option.some.inj h
        refine calm_logged (Calm.trans ?_ (calm_operatorChildDone _ _ _ _))
        exact calm_onLifecycle (.of_cut rfl (fun _ h => h) rfl rfl rfl rfl rfl
          rfl (List.Subset.refl _) fun _ h => h)
      · cases h
  | settlementCallback id =>
      simp only [event] at h
      split at h
      · rename_i hcond
        obtain rfl := Option.some.inj h
        exact calm_onLifecycle
          (Lifecycle.calm_settlementCallback hcond.1 hcond.2)
      · cases h

theorem startBackground_lifecycle (id : Nat) (kind : BackgroundKind)
    (s : State) : (s.startBackground id kind).lifecycle =
      s.lifecycle.setBackground id (.started s.control.journal.length) := by
  cases kind <;> rfl

theorem calm_startBackground_control (id : Nat) (kind : BackgroundKind)
    (s : State) :
    s.control.Calm (s.startBackground id kind).control := by
  cases kind with
  | globalOutputOff => exact Control.calm_note 0 trivial trivial
  | faultSettlement reason source => exact .refl _

theorem calm_startBackground {id : Nat} {kind : BackgroundKind}
    (hb : s.lifecycle.background[id]? =
      some (⟨kind, .created⟩ : BackgroundTask)) :
    Calm s (s.startBackground id kind) := by
  intro hi
  have hcontrol := calm_startBackground_control id kind s
  have hlife := startBackground_lifecycle id kind s
  have hrank : ∀ b, s.lifecycle.background[id]? = some b →
      b.status.rank ≤
        (BackgroundStatus.started s.control.journal.length).rank := by
    intro b hb'
    rw [hb] at hb'
    simp [← Option.some.inj hb', BackgroundStatus.rank]
  refine ⟨⟨hcontrol.inv hi.control, ?_, ?_⟩, fun t => ⟨⟨hcontrol.drift t, ?_,
    ?_, ?_⟩, hcontrol.marks t⟩⟩
  · rw [hlife]
    exact Lifecycle.inv_setBackground hi.lifecycle hrank
  · intro i since hstarted
    rw [hlife, Lifecycle.setBackground_getElem?] at hstarted
    obtain ⟨b, hbi, heq⟩ := Option.map_eq_some_iff.mp hstarted
    by_cases hid : id = i
    · subst hid
      rw [hb] at hbi
      obtain rfl := Option.some.inj hbi
      rw [if_pos rfl] at heq
      cases heq
      simp [startBackground, Control.note]
    · rw [if_neg hid] at heq
      subst heq
      have hold := hi.requested i since hbi
      obtain ⟨d, hd⟩ := (hcontrol.drift 0).journal
      rw [← hd, List.reverse_append,
        List.getElem?_append_left (List.getElem?_eq_some_iff.mp hold).1]
      exact hold
  · rw [hlife]
    refine Lifecycle.drift_setBackground hrank fun hoff _ => ?_
    rw [hb] at hoff
    cases Option.some.inj hoff
    simp [startBackground, Control.note, added]
  · cases kind <;> rfl
  · cases kind <;> rfl

theorem calm_launch {op : Operation} {c : Nat → Py Unit}
    (h : s.launch op = some (s', c)) : Calm s s' := by
  cases op with
  | background id =>
      simp only [launch] at h
      split at h
      · rename_i kind hb
        cases h
        exact calm_startBackground hb
      · cases h
  | replaceOperatorChild role task =>
      simp only [launch] at h
      split at h
      · cases h
        exact .refl s
      · cases h
  | _ =>
      cases h
      exact .refl s

end State

def discipline : Discipline manager where
  inv := State.Inv
  rely := State.Still
  guar := State.Allowed
  parked := State.Parked
  post := State.Idle
  rely_refl := State.Still.refl
  rely_trans := fun _ _ _ _ => State.Still.trans
  guar_inv := fun _ _ _ hi h => (h hi).1
  guar_rely := fun _ u _ _ hne hi h => (h hi).2 u hne
  parked_stable := fun _ _ _ _ hs _ h => h.still hs
  post_stable := fun _ _ _ hs _ h => h.still hs
  environment_inv := fun _ _ _ h hi => (State.calm_event h hi).1
  environment_rely := fun _ t _ _ h hi => (State.calm_event h hi).2 t
  launch_inv := fun _ _ _ _ h hi => (State.calm_launch h hi).1
  launch_rely := fun _ t _ _ _ h hi => (State.calm_launch h hi).2 t

section Operations

variable {α : Type} {t : Nat} {s : State}

theorem keeps_discard {P : State → Prop} {p : Py α} (h : Keeps t P p s) :
    Keeps t P (Py.discard p) s := .bind h fun _ _ => .ret _

theorem keeps_operation {op : Operation}
    (hop : ∀ request, op ≠ .requestRun request) :
    Keeps t (Resting t) (Py.operation t op) s := by
  have hR := stable_resting t
  have hsync : ∀ {f : State → State × Option Exc}, State.Calm s (f s).1 →
      Keeps t (Resting t) (Py.sync f) s :=
    fun h => .harmless hR (.sync h)
  cases op with
  | requestRun request => exact absurd rfl (hop request)
  | requestStop channel => exact keeps_discard (Py.keeps_requestStop _)
  | emergencyOff channel => exact keeps_discard (Py.keeps_emergencyOff _)
  | disconnectReviewedSource context =>
      exact keeps_discard (Py.keeps_disconnectReviewedSource _)
  | beginReviewedSourceConnect context =>
      exact keeps_discard (Py.keeps_beginReviewedSourceConnect _)
  | completeReviewedSourceConnect generation =>
      exact keeps_discard (Py.keeps_completeReviewedSourceConnect _)
  | markReviewedSourceUncertain generation context =>
      exact Py.keeps_markReviewedSourceUncertain _ _
  | abandonReviewedSourceConnect generation =>
      exact .harmless hR (Py.harmless_abandonReviewedSourceConnect _)
  | recordReviewedSourceConnected verifiedOff =>
      exact .harmless hR (Py.harmless_recordReviewedSourceConnected _)
  | recordReviewedSourceUnavailable =>
      exact hsync (Py.calm_revokeReviewedSource s)
  | updateTarget pTarget channel =>
      exact keeps_discard (Py.keeps_updateTarget _ _)
  | updateLimits channel vComp iComp =>
      exact keeps_discard (Py.keeps_updateLimits _ _ _)
  | acknowledgeFault reason =>
      exact keeps_discard (Py.keeps_acknowledgeFault _)
  | latchFault reason source => exact .harmless hR (Py.harmless_fault _ _)
  | onPersistenceFailure reason =>
      exact .harmless hR (Py.harmless_onPersistenceFailure _)
  | onFailedPollPersistenceFailure instrument reason =>
      exact .harmless hR (Py.harmless_onFailedPollPersistenceFailure _ _)
  | onFailedPollPersistenceRecovered instrument =>
      refine hsync ?_
      unfold State.onFailedPollPersistenceRecovered
      split
      · exact .refl s
      · exact .of_same (by simp) (by simp) (by simp) (by simp)
  | onInterlockTrip name channel value action =>
      exact Py.keeps_onInterlockTrip _ _ _ _
  | onInterlockDeadChannel name channel reasons value =>
      exact keeps_discard
        (.harmless hR (Py.harmless_onInterlockDeadChannel _ _ _ _))
  | onInterlockChannelRecovered channel =>
      refine hsync ?_
      unfold State.onInterlockChannelRecovered
      dsimp only
      split
      · exact .of_same rfl rfl rfl rfl
      · exact .of_same (by simp) (by simp) (by simp) (by simp)
  | setCooldownPredictorStatus available reason =>
      exact Py.keeps_setCooldownPredictorStatus _ _
  | snapshotOperatorSafety =>
      exact .harmless hR .observeTerminalSafetyChildren
  | replaceOperatorChild role task =>
      exact .harmless hR (Py.harmless_replaceOperatorChild _ _)
  | collect reading =>
      exact hsync (.of_same (by simp [State.collect]) (by simp [State.collect])
        (by simp [State.collect]) (by simp [State.collect]))
  | monitorTurn => exact .harmless hR Py.harmless_monitorTurn
  | start => exact .harmless hR Py.harmless_start
  | stop => exact Py.keeps_stop
  | background id => exact .ret _

theorem operation_wp (hi : s.Inv) (h : s.Idle t) (op : Operation) :
    wp (taskContract t) true (Py.operation t op) (fun _ s' => s'.Idle t) s := by
  by_cases hop : ∃ request, op = .requestRun request
  · obtain ⟨request, rfl⟩ := hop
    exact wp_seq (Py.requestRun_wp hi h request) (fun _ _ hr => hr)
      fun _ _ hr => hr
  · have hkeeps : Keeps t (Resting t) (Py.operation t op) s :=
      keeps_operation fun request heq => hop ⟨request, heq⟩
    exact wp_mono (hkeeps (.of_idle hi h) true) fun _ _ hr => hr.idle

theorem runBackground_wp {s' : State} {id : Nat} {kind : BackgroundKind}
    (hb : s.lifecycle.background[id]? =
      some (⟨kind, .created⟩ : BackgroundTask))
    (hs : s' = s.startBackground id kind) (hi : s'.Inv) (h : s'.Idle t) :
    wp (taskContract t) true (Py.runBackground t id kind)
      (fun _ s'' => s''.Idle t) s' := by
  have hserving : Py.Serving t id s' := by
    refine ⟨.of_idle hi h, ?_⟩
    rw [hs, State.startBackground_lifecycle, Lifecycle.setBackground_getElem?,
      hb]
    exact ⟨_, rfl, by simp⟩
  exact wp_mono (Py.keeps_runBackground id kind hserving true)
    fun _ _ hr => hr.toResting.idle

theorem kept : discipline.Kept := by
  intro op s s' c t h hi hidle
  have hi' : s'.Inv := (State.calm_launch h hi).1
  cases op with
  | background id =>
      simp only [manager, State.launch] at h
      split at h
      · rename_i kind hb
        cases h
        exact runBackground_wp hb rfl hi' hidle
      · cases h
  | replaceOperatorChild role task =>
      simp only [manager, State.launch] at h
      split at h
      · cases h
        exact operation_wp hi' hidle _
      · cases h
  | _ =>
      cases h
      exact operation_wp hi' hidle _

end Operations

theorem inv_initial (wiring : Wiring) (env : Surroundings) :
    (State.initial wiring env).Inv where
  control := Control.inv_initial
  lifecycle :=
    { owner := fun _ h => by cases h
      pending := fun _ h => by cases h }
  requested := fun _ _ h => by cases h

theorem idle_initial (wiring : Wiring) (env : Surroundings) (t : Nat) :
    (State.initial wiring env).Idle t where
  unmarked := Finset.notMem_empty t
  cmdLock := by
    intro h
    cases h
  runRequestLock := by
    intro h
    cases h

/-- A pool that some schedule of the manager leads to. -/
abbrev Reachable (wiring : Wiring) (env : Surroundings) :
    Pool State Wait Outcome Exc → Prop :=
  manager.Reachable (State.initial wiring env)

section Reached

variable {wiring : Wiring} {env : Surroundings}
  {p q : Pool State Wait Outcome Exc}

theorem reachable_sound (h : Reachable wiring env p) : discipline.Sound p :=
  Discipline.reachable_sound kept (inv_initial wiring env)
    (idle_initial wiring env) h

theorem reachable_inv (h : Reachable wiring env p) : p.state.Inv :=
  (reachable_sound h).inv

theorem reachable_justified (h : Reachable wiring env p) :
    Justified Note.Justified p.state.control.journal :=
  (reachable_inv h).control.justified

theorem act_journal {s s' : State} (h : discipline.Act s s') (hi : s.Inv) :
    s.control.journal <:+ s'.control.journal := by
  cases h with
  | task t hg =>
      exact ((hg hi).2 (t + 1) (Nat.succ_ne_self t).symm).control.journal
  | environment e he =>
      exact ((State.calm_event he hi).2 0).control.journal
  | launch op c hl =>
      exact ((State.calm_launch hl hi).2 0).control.journal

theorem acts_journal {s s' : State}
    (h : Relation.ReflTransGen discipline.Act s s') (hi : s.Inv) :
    s'.Inv ∧ s.control.journal <:+ s'.control.journal := by
  induction h with
  | refl => exact ⟨hi, List.suffix_refl _⟩
  | tail _ hact ih =>
      exact ⟨Discipline.act_inv hact ih.1, ih.2.trans (act_journal hact ih.1)⟩

theorem step_journal (h : Reachable wiring env p) {m}
    (hm : manager.step p m = some q) :
    p.state.control.journal <:+ q.state.control.journal :=
  (acts_journal (Discipline.step_sound kept (reachable_sound h) hm).1
    (reachable_inv h)).2

end Reached

abbrev Schedule := List (Async.Move Outcome Operation Event)

/-- What task `t` waits for is over, with nothing to deliver. -/
def resumed (t : Nat) : Async.Move Outcome Operation Event :=
  .resume t ⟨.ok .none, false⟩

/-- What task `t` waits for is over with an outcome. -/
def answered (t : Nat) (outcome : Outcome) :
    Async.Move Outcome Operation Event :=
  .resume t ⟨outcome, false⟩

def replayed (wiring : Wiring) (env : Surroundings) (schedule : Schedule) :
    Option (Pool State Wait Outcome Exc) :=
  manager.replay (Pool.initial (State.initial wiring env)) schedule

theorem reached {β : Type} {wiring : Wiring} {env : Surroundings}
    {schedule : Schedule} {observe : Pool State Wait Outcome Exc → β} {x : β}
    (h : (replayed wiring env schedule).map observe = some x) :
    ∃ p, Reachable wiring env p ∧ observe p = x := by
  obtain ⟨p, hp, hx⟩ := Option.map_eq_some_iff.mp h
  exact ⟨p, manager.reachable_replay schedule .initial hp, hx⟩

end Safety
end CryoDaq
