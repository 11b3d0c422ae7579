import CryoDaq.Safety.Manager

/-!
# Who owns the children and the retained tasks

The lifecycle part of the state changes when a child or a retained task comes
to its end, when a shared OFF is created or released, and when the manager is
started or stopped.

**Stop cut.**  `Holds t cut` says that the `stop()` running as task `t` still
owns exactly what it captured when it began; `Consumed cut` says that it has
seen both its children end.

**Interference.**  `Lifecycle.Drift t` is what a task `t` may assume of every
change it does not make itself: retained tasks only make progress, ended
children stay ended, and nobody else touches its stop cut.
-/

namespace CryoDaq
namespace Safety

/-- How far a retained task has come. -/
def BackgroundStatus.rank : BackgroundStatus → Nat
  | .created => 0
  | .started _ => 1
  | .finished _ => 2

/-- A later account `b'` of the same retained task; a global OFF that was
started meanwhile was requested. -/
structure BackgroundTask.Follows (off : Prop) (b b' : BackgroundTask) :
    Prop where
  kind : b'.kind = b.kind
  rank : b.status.rank ≤ b'.status.rank
  requested : b = ⟨.globalOutputOff, .created⟩ → b'.status ≠ .created → off

theorem BackgroundTask.Follows.refl (off : Prop) (b : BackgroundTask) :
    b.Follows off b where
  kind := rfl
  rank := Nat.le_refl _
  requested := by
    rintro rfl hne
    exact absurd rfl hne

theorem BackgroundTask.Follows.trans {off₁ off₂ : Prop}
    {a b c : BackgroundTask} (hab : a.Follows off₁ b) (hbc : b.Follows off₂ c) :
    a.Follows (off₁ ∨ off₂) c where
  kind := hbc.kind.trans hab.kind
  rank := hab.rank.trans hbc.rank
  requested := by
    rintro rfl hne
    by_cases hb : b.status = .created
    · right
      refine hbc.requested ?_ hne
      obtain ⟨kind, status⟩ := b
      have hk : kind = .globalOutputOff := hab.kind
      simp only at hb
      rw [hb, hk]
    · exact Or.inl (hab.requested rfl hb)

namespace Lifecycle

variable {t : Nat} {owned off : Prop} {cut : StopCut} {l l' : Lifecycle}

theorem backgroundDone_iff (l : Lifecycle) (id : Nat) :
    l.backgroundDone id = true ↔
      ∃ b, l.background[id]? = some b ∧ b.status.rank = 2 := by
  unfold backgroundDone
  split
  · rename_i kind outcome h
    exact ⟨fun _ => ⟨_, h, rfl⟩, fun _ => rfl⟩
  · rename_i hnot
    constructor
    · intro h
      cases h
    · rintro ⟨⟨kind, status⟩, hb, hrank⟩
      cases status with
      | created => cases hrank
      | started since => cases hrank
      | finished outcome => exact absurd hb (hnot kind outcome)

theorem mem_unsettled (l : Lifecycle) (id : Nat) :
    id ∈ l.unsettled ↔
      ∃ b, l.background[id]? = some b ∧ b.isSettlement = true ∧
        b.status.rank ≠ 2 := by
  have hdone := l.backgroundDone_iff id
  simp only [unsettled, List.mem_filter, List.mem_range, Bool.and_eq_true,
    Bool.not_eq_true', Option.any_eq_true, Bool.eq_false_iff, ne_eq, hdone]
  constructor
  · rintro ⟨_, ⟨b, hb, hs⟩, hnot⟩
    exact ⟨b, hb, hs, fun hr => hnot ⟨b, hb, hr⟩⟩
  · rintro ⟨b, hb, hs, hr⟩
    refine ⟨(List.getElem?_eq_some_iff.mp hb).1, ⟨b, hb, hs⟩, ?_⟩
    rintro ⟨b', hb', hr'⟩
    rw [hb] at hb'
    exact hr (Option.some.inj hb' ▸ hr')

/-- The shared owner is a global OFF, and every unfinished settlement is
pending. -/
structure Inv (l : Lifecycle) : Prop where
  owner : ∀ id, l.globalOffOwnerTask = some id →
    (l.background[id]?).map BackgroundTask.kind = some .globalOutputOff
  pending : ∀ id ∈ l.unsettled, id ∈ l.pendingChildFaultSettlements

/-! ## The stop cut -/

/-- The `stop()` of task `t` owns what it captured. -/
structure Holds (t : Nat) (cut : StopCut) (l : Lifecycle) : Prop where
  owner : l.stopOwner = some t
  stopping : l.stoppingChildGeneration = some cut.generation
  generation : l.childGeneration = cut.generation
  collect : l.collectTask = cut.collect
  monitor : l.monitorTask = cut.monitor
  childless : cut.tasks = [] → l.pendingChildFaultSettlements = []

/-- The ends of the children of the cut were consumed. -/
def Consumed (cut : StopCut) (l : Lifecycle) : Prop :=
  ∀ task ∈ cut.tasks, task ∈ l.consumedChildTasks

theorem Holds.child_mem (h : l.Holds t cut) {role : ChildRole} {task : Nat}
    (hc : l.child role = some task) : task ∈ cut.tasks := by
  cases role with
  | collect =>
      have hcol : cut.collect = some task := h.collect.symm.trans hc
      simp [StopCut.tasks, hcol]
  | monitor =>
      have hmon : cut.monitor = some task := h.monitor.symm.trans hc
      simp [StopCut.tasks, hmon]

/-- What task `t` may assume of a change that is not its own.  `owned` says
that no `stop()` began over somebody else's settlements; `off` says that a
global OFF was requested meanwhile. -/
structure Drift (t : Nat) (owned off : Prop) (l l' : Lifecycle) : Prop where
  tasks : ∀ (id : Nat) (b : BackgroundTask), l.background[id]? = some b →
    ∃ b' : BackgroundTask, l'.background[id]? = some b' ∧ b.Follows off b'
  children : ∀ c, l.childDone c = true → l'.childDone c = true
  held : owned → ∀ cut, l.Holds t cut → l'.Holds t cut
  settled : owned → ∀ cut, l.Holds t cut → l.Consumed cut →
    l'.Consumed cut ∧ l'.settlements = l.settlements ∧
      ∀ id ∈ l'.unsettled, id ∈ l.unsettled

theorem Drift.refl (t : Nat) (owned off : Prop) (l : Lifecycle) :
    Drift t owned off l l where
  tasks := fun _ b h => ⟨b, h, .refl off b⟩
  children := fun _ h => h
  held := fun _ _ h => h
  settled := fun _ _ _ h => ⟨h, rfl, fun _ h => h⟩

theorem Drift.trans {owned' off' off'' : Prop} {a b c : Lifecycle}
    (hab : Drift t owned off a b) (hbc : Drift t owned' off' b c)
    (howned : owned' → owned) (hoff : off ∨ off' → off'') :
    Drift t owned' off'' a c where
  tasks := by
    intro id x hx
    obtain ⟨y, hy, hxy⟩ := hab.tasks id x hx
    obtain ⟨z, hz, hyz⟩ := hbc.tasks id y hy
    have hxz := BackgroundTask.Follows.trans hxy hyz
    exact ⟨z, hz, hxz.kind, hxz.rank, fun h1 h2 => hoff (hxz.requested h1 h2)⟩
  children := fun x hx => hbc.children x (hab.children x hx)
  held := fun ho cut h => hbc.held ho cut (hab.held (howned ho) cut h)
  settled := by
    intro ho cut hh hc
    obtain ⟨hc', hn, hu⟩ := hab.settled (howned ho) cut hh hc
    obtain ⟨hc'', hn', hu'⟩ :=
      hbc.settled ho cut (hab.held (howned ho) cut hh) hc'
    exact ⟨hc'', hn'.trans hn, fun id h => hu id (hu' id h)⟩

theorem Drift.of_background (hb : l'.background = l.background)
    (hchildren : ∀ c, l.childDone c = true → l'.childDone c = true)
    (hheld : owned → ∀ cut, l.Holds t cut → l'.Holds t cut)
    (hconsumed : owned → ∀ cut, l.Holds t cut → l.Consumed cut →
      l'.Consumed cut) : Drift t owned off l l' where
  tasks := fun id b h => ⟨b, hb ▸ h, .refl off b⟩
  children := hchildren
  held := hheld
  settled := by
    intro ho cut hh hc
    refine ⟨hconsumed ho cut hh hc, by simp [settlements, hb], ?_⟩
    intro id hid
    rw [mem_unsettled] at hid ⊢
    rwa [hb] at hid

theorem Drift.of_cut (hb : l'.background = l.background)
    (hchildren : ∀ c, l.childDone c = true → l'.childDone c = true)
    (howner : l'.stopOwner = l.stopOwner)
    (hstop : l'.stoppingChildGeneration = l.stoppingChildGeneration)
    (hgen : l'.childGeneration = l.childGeneration)
    (hcol : l'.collectTask = l.collectTask)
    (hmon : l'.monitorTask = l.monitorTask)
    (hpend : ∀ id ∈ l'.pendingChildFaultSettlements,
      id ∈ l.pendingChildFaultSettlements)
    (hcons : l.consumedChildTasks ⊆ l'.consumedChildTasks) :
    Drift t owned off l l' := by
  refine .of_background hb hchildren ?_ fun _ _ _ hc task h => hcons (hc task h)
  intro _ cut h
  refine ⟨howner.trans h.owner, hstop.trans h.stopping,
    hgen.trans h.generation, hcol.trans h.collect, hmon.trans h.monitor, ?_⟩
  intro hnone
  refine List.eq_nil_iff_forall_not_mem.mpr fun id hid => ?_
  have := hpend id hid
  rw [h.childless hnone] at this
  cases this

theorem background_append {b : BackgroundTask} {more : List BackgroundTask}
    (h : l'.background = l.background ++ more) {id : Nat}
    (hb : l.background[id]? = some b) : l'.background[id]? = some b := by
  rw [h, List.getElem?_append_left (List.getElem?_eq_some_iff.mp hb).1]
  exact hb

/-! ## Changes that anybody may make -/

/-- No global OFF is started from `l` to `l'`. -/
def Unbegun (l l' : Lifecycle) : Prop :=
  ∀ id since : Nat,
    l'.background[id]? = some
        (⟨.globalOutputOff, .started since⟩ : BackgroundTask) →
      l.background[id]? = some
        (⟨.globalOutputOff, .started since⟩ : BackgroundTask)

theorem Unbegun.of_background (h : l'.background = l.background) :
    l.Unbegun l' := by
  intro id since hb
  rwa [h] at hb

theorem Unbegun.append {kind : BackgroundKind}
    (h : l'.background = l.background ++ [⟨kind, .created⟩]) :
    l.Unbegun l' := by
  intro id since hb
  rw [h] at hb
  rcases Nat.lt_or_ge id l.background.length with hlt | hge
  · rwa [List.getElem?_append_left hlt] at hb
  · rw [List.getElem?_append_right hge] at hb
    have := List.mem_of_getElem? hb
    simp at this

/-- A change that keeps the invariant and is interference for everybody. -/
structure Calm (l l' : Lifecycle) : Prop where
  inv : l.Inv → l'.Inv
  begun : l.Unbegun l'
  drift : ∀ t owned, Drift t owned False l l'

theorem Calm.refl (l : Lifecycle) : l.Calm l :=
  ⟨id, .of_background rfl, fun t o => .refl t o _ l⟩

theorem Calm.trans {a b c : Lifecycle} (hab : a.Calm b) (hbc : b.Calm c) :
    a.Calm c where
  inv := fun h => hbc.inv (hab.inv h)
  begun := fun id since h => hab.begun id since (hbc.begun id since h)
  drift := fun t o => (hab.drift t o).trans (hbc.drift t o) id (by simp)

theorem Calm.of_cut (hb : l'.background = l.background)
    (hchildren : ∀ c, l.childDone c = true → l'.childDone c = true)
    (howner : l'.stopOwner = l.stopOwner)
    (hstop : l'.stoppingChildGeneration = l.stoppingChildGeneration)
    (hgen : l'.childGeneration = l.childGeneration)
    (hcol : l'.collectTask = l.collectTask)
    (hmon : l'.monitorTask = l.monitorTask)
    (hpend : l'.pendingChildFaultSettlements = l.pendingChildFaultSettlements)
    (hcons : l.consumedChildTasks ⊆ l'.consumedChildTasks)
    (hoff : ∀ id, l'.globalOffOwnerTask = some id →
      l.globalOffOwnerTask = some id) : l.Calm l' where
  inv := by
    intro h
    refine ⟨fun id hid => hb ▸ h.owner id (hoff id hid), ?_⟩
    intro id hid
    rw [hpend]
    refine h.pending id ?_
    rw [mem_unsettled] at hid ⊢
    rwa [hb] at hid
  begun := .of_background hb
  drift := fun _ _ =>
    .of_cut hb hchildren howner hstop hgen hcol hmon (fun _ h => hpend ▸ h)
      hcons

theorem calm_consume (task : Nat) (l : Lifecycle) :
    l.Calm { l with consumedChildTasks := task :: l.consumedChildTasks } :=
  .of_cut rfl (fun _ h => h) rfl rfl rfl rfl rfl rfl
    (List.subset_cons_self _ _) fun _ h => h

theorem calm_childFlags (active : Bool) (failed : Option ChildRole)
    (text : Option String) {task : Nat} {l : Lifecycle} :
    l.Calm { l with
      consumedChildTasks := task :: l.consumedChildTasks
      safetyMonitorActive := active
      failedChildRole := failed
      failedChildReason := text } :=
  .of_cut rfl (fun _ h => h) rfl rfl rfl rfl rfl rfl
    (List.subset_cons_self _ _) fun _ h => h

theorem inv_retain (h : l.Inv) (reason : String) (source : FaultSource) :
    (l.retainChildFaultSettlement reason source).Inv where
  owner := by
    intro id hid
    obtain ⟨b, hb, hk⟩ := Option.map_eq_some_iff.mp (h.owner id hid)
    exact Option.map_eq_some_iff.mpr ⟨b, background_append rfl hb, hk⟩
  pending := by
    intro id hid
    obtain ⟨b, hb, hs, hr⟩ := (mem_unsettled _ id).mp hid
    simp only [retainChildFaultSettlement, createBackground] at hb ⊢
    rcases Nat.lt_or_ge id l.background.length with hlt | hge
    · rw [List.getElem?_append_left hlt] at hb
      exact List.mem_append_left _
        (h.pending id ((mem_unsettled l id).mpr ⟨b, hb, hs, hr⟩))
    · have hid : id = l.background.length := by
        have := (List.getElem?_eq_some_iff.mp hb).1
        simp at this
        omega
      simp [hid]

theorem Drift.retain (reason : String) (source : FaultSource)
    (h : owned → ∀ cut, l.Holds t cut →
      cut.tasks ≠ [] ∧ ¬ l.Consumed cut) :
    Drift t owned off l (l.retainChildFaultSettlement reason source) where
  tasks := fun _ b hb => ⟨b, background_append rfl hb, .refl off b⟩
  children := fun _ hc => hc
  held := fun ho cut hh =>
    { hh with childless := fun hnone => absurd hnone (h ho cut hh).1 }
  settled := fun ho cut hh hc => absurd hc (h ho cut hh).2

theorem calm_childFault {role : ChildRole} {task : Nat}
    (hchild : l.child role = some task) (hnew : task ∉ l.consumedChildTasks)
    (active : Bool) (failed : Option ChildRole) (text : Option String)
    (reason : String) (source : FaultSource) :
    l.Calm (({ l with
      consumedChildTasks := task :: l.consumedChildTasks
      safetyMonitorActive := active
      failedChildRole := failed
      failedChildReason := text } : Lifecycle).retainChildFaultSettlement
        reason source) where
  inv := fun h => by
    refine inv_retain ?_ reason source
    refine ⟨h.owner, fun id hid => ?_⟩
    exact h.pending id ((mem_unsettled l id).mpr ((mem_unsettled _ id).mp hid))
  begun := .append rfl
  drift := fun t owned =>
    { tasks := fun _ b hb => ⟨b, background_append rfl hb, .refl _ b⟩
      children := fun _ hc => hc
      held := fun _ cut hh =>
        { hh with
          childless := fun hnone => by
            have := hh.child_mem hchild
            rw [hnone] at this
            cases this }
      settled := fun _ cut hh hc =>
        absurd (hc task (hh.child_mem hchild)) hnew }

theorem unsettled_createGlobalOff {id : Nat}
    (h : id ∈ (l.createBackground .globalOutputOff).unsettled) :
    id ∈ l.unsettled := by
  obtain ⟨b, hb, hs, hr⟩ := (mem_unsettled _ id).mp h
  simp only [createBackground] at hb
  rcases Nat.lt_or_ge id l.background.length with hlt | hge
  · rw [List.getElem?_append_left hlt] at hb
    exact (mem_unsettled l id).mpr ⟨b, hb, hs, hr⟩
  · rw [List.getElem?_append_right hge] at hb
    obtain rfl : b = ⟨.globalOutputOff, .created⟩ := by
      simpa using List.mem_of_getElem? hb
    cases hs

theorem calm_createGlobalOff (generation abort : Option Nat) (l : Lifecycle) :
    l.Calm { l.createBackground .globalOutputOff with
      globalOffOwnerTask := some l.background.length
      globalOffOwnerGeneration := generation
      globalOffOwnerAbortGeneration := abort } where
  inv := by
    intro h
    refine ⟨?_, fun id hid => h.pending id (unsettled_createGlobalOff hid)⟩
    intro id hid
    have hid : l.background.length = id := Option.some.inj hid
    simp [createBackground, ← hid]
  begun := .append rfl
  drift := fun t owned =>
    { tasks := fun _ b hb => ⟨b, background_append rfl hb, .refl _ b⟩
      children := fun _ hc => hc
      held := fun _ cut hh => { hh with }
      settled := fun _ cut hh hc => by
        refine ⟨hc, ?_, fun id hid => unsettled_createGlobalOff hid⟩
        simp [settlements, createBackground, BackgroundTask.isSettlement] }

/-! ### Progress of a retained task -/

theorem setBackground_getElem? (id i : Nat) (status : BackgroundStatus)
    (l : Lifecycle) :
    (l.setBackground id status).background[i]? =
      (l.background[i]?).map fun b =>
        if id = i then { b with status := status } else b := by
  simp only [setBackground, List.getElem?_modify]
  by_cases hi : id = i <;> simp [hi]

theorem countP_modify {α : Type} {p : α → Bool} {f : α → α}
    (hf : ∀ a, p (f a) = p a) (xs : List α) (i : Nat) :
    (xs.modify i f).countP p = xs.countP p := by
  induction xs generalizing i with
  | nil => simp
  | cons x xs ih =>
      cases i with
      | zero => simp [List.countP_cons, hf]
      | succ i => simp [List.countP_cons, ih]

theorem unsettled_setBackground {id : Nat} {status : BackgroundStatus}
    (hrank : ∀ b, l.background[id]? = some b → b.status.rank ≤ status.rank)
    {i : Nat} (hi : i ∈ (l.setBackground id status).unsettled) :
    i ∈ l.unsettled := by
  obtain ⟨b', hb', hs, hr⟩ := (mem_unsettled _ i).mp hi
  rw [setBackground_getElem?] at hb'
  obtain ⟨b, hb, rfl⟩ := Option.map_eq_some_iff.mp hb'
  refine (mem_unsettled l i).mpr ⟨b, hb, ?_⟩
  by_cases hid : id = i
  · subst hid
    simp only [if_pos] at hs hr
    refine ⟨hs, ?_⟩
    have := hrank b hb
    have hle : status.rank ≤ 2 := by
      cases status <;> simp [BackgroundStatus.rank]
    omega
  · simp only [if_neg hid] at hs hr
    exact ⟨hs, hr⟩

theorem drift_setBackground {id : Nat} {status : BackgroundStatus}
    (hrank : ∀ b, l.background[id]? = some b → b.status.rank ≤ status.rank)
    (hoff : l.background[id]? = some ⟨.globalOutputOff, .created⟩ →
      status ≠ .created → off) :
    Drift t owned off l (l.setBackground id status) where
  tasks := by
    intro i b hb
    rw [setBackground_getElem?, hb]
    by_cases hi : id = i
    · subst hi
      refine ⟨{ b with status := status }, by simp, rfl, hrank b hb, ?_⟩
      rintro rfl hne
      exact hoff hb hne
    · exact ⟨b, by simp [hi], .refl off b⟩
  children := fun _ hc => hc
  held := fun _ cut hh => { hh with }
  settled := by
    intro _ cut hh hc
    refine ⟨hc, ?_, fun i hi => unsettled_setBackground hrank hi⟩
    unfold settlements setBackground
    refine countP_modify ?_ _ _
    intro b
    rfl

theorem inv_setBackground (h : l.Inv) {id : Nat} {status : BackgroundStatus}
    (hrank : ∀ b, l.background[id]? = some b → b.status.rank ≤ status.rank) :
    (l.setBackground id status).Inv where
  owner := by
    intro i hi
    have := h.owner i hi
    rw [setBackground_getElem?, Option.map_map]
    refine Eq.trans (congrArg (fun f => Option.map f _) ?_) this
    funext b
    by_cases hid : id = i <;> simp [hid]
  pending := fun i hi => h.pending i (unsettled_setBackground hrank hi)

theorem calm_finish {id : Nat} (outcome : Outcome)
    (hbegun : ∀ b, l.background[id]? = some b → b.status ≠ .created) :
    l.Calm (l.setBackground id (.finished outcome)) := by
  have hrank : ∀ b, l.background[id]? = some b →
      b.status.rank ≤ (BackgroundStatus.finished outcome).rank := by
    intro b _
    cases b.status <;> simp [BackgroundStatus.rank]
  refine ⟨fun h => inv_setBackground h hrank, ?_, fun t owned => ?_⟩
  · intro i since hb
    rw [setBackground_getElem?] at hb
    obtain ⟨b, hb, heq⟩ := Option.map_eq_some_iff.mp hb
    by_cases hi : id = i
    · rw [if_pos hi] at heq
      have := congrArg BackgroundTask.status heq
      cases this
    · rw [if_neg hi] at heq
      rw [hb, heq]
  · refine drift_setBackground hrank fun hb _ => ?_
    exact hbegun _ hb rfl

/-! ### Released owners and finished settlements -/

theorem completeStoppingGenerationIfSettled_eq (generation : Option Nat)
    (l : Lifecycle) :
    ∃ stopping, l.completeStoppingGenerationIfSettled generation =
      { l with stoppingChildGeneration := stopping } ∧
      (stopping ≠ l.stoppingChildGeneration →
        l.collectTask = none ∧ l.monitorTask = none ∧
          l.pendingChildFaultSettlements = []) := by
  unfold completeStoppingGenerationIfSettled
  split
  · exact ⟨l.stoppingChildGeneration, rfl, fun h => absurd rfl h⟩
  · split_ifs with h1 h2 h3
    · exact ⟨l.stoppingChildGeneration, rfl, fun h => absurd rfl h⟩
    · exact ⟨l.stoppingChildGeneration, rfl, fun h => absurd rfl h⟩
    · exact ⟨l.stoppingChildGeneration, rfl, fun h => absurd rfl h⟩
    · refine ⟨none, rfl, fun _ => ?_⟩
      simp at h2 h3
      exact ⟨h2.1, h2.2, h3⟩

theorem calm_settlementCallback {id : Nat} {s : State}
    (hmem : id ∈ s.lifecycle.pendingChildFaultSettlements)
    (hdone : s.lifecycle.backgroundDone id = true) :
    s.lifecycle.Calm (s.settlementCallback id).lifecycle := by
  obtain ⟨stopping, heq, hchanged⟩ :=
    completeStoppingGenerationIfSettled_eq none
      { s.lifecycle with
        pendingChildFaultSettlements :=
          s.lifecycle.pendingChildFaultSettlements.filter (· ≠ id) }
  have hl : (s.settlementCallback id).lifecycle =
      { s.lifecycle with
        pendingChildFaultSettlements :=
          s.lifecycle.pendingChildFaultSettlements.filter (· ≠ id)
        stoppingChildGeneration := stopping
        shutdownHoldFaultSettlement :=
          if s.lifecycle.shutdownHoldFaultSettlement = some id then none
          else s.lifecycle.shutdownHoldFaultSettlement } := by
    simp only [State.settlementCallback, State.onLifecycle, heq]
  rw [hl]
  constructor
  · intro h
    refine ⟨h.owner, fun i hi => ?_⟩
    have hi' : i ∈ s.lifecycle.unsettled :=
      (mem_unsettled _ i).mpr ((mem_unsettled _ i).mp hi)
    refine List.mem_filter.mpr ⟨h.pending i hi', ?_⟩
    obtain ⟨b, hb, _, hr⟩ := (mem_unsettled _ i).mp hi'
    obtain ⟨b', hb', hr'⟩ := (backgroundDone_iff _ id).mp hdone
    have hne : i ≠ id := by
      rintro rfl
      rw [hb] at hb'
      exact hr (Option.some.inj hb' ▸ hr')
    simpa using hne
  · exact .of_background rfl
  · intro t owned
    refine .of_background rfl (fun _ h => h) ?_ fun _ _ _ h => h
    intro _ cut h
    have hsame : stopping = s.lifecycle.stoppingChildGeneration := by
      by_contra hne
      obtain ⟨hcol, hmon, _⟩ := hchanged hne
      have hnone : cut.tasks = [] := by
        have h1 : cut.collect = none := h.collect.symm.trans hcol
        have h2 : cut.monitor = none := h.monitor.symm.trans hmon
        simp [StopCut.tasks, h1, h2]
      have := h.childless hnone
      rw [this] at hmem
      cases hmem
    refine ⟨h.owner, hsame.trans h.stopping, h.generation, h.collect,
      h.monitor, ?_⟩
    intro hnone
    simp [h.childless hnone]

theorem calm_releaseGlobalOff (id : Nat) (s : State) :
    s.lifecycle.Calm (s.releaseGlobalOff id).lifecycle := by
  unfold State.releaseGlobalOff
  split
  · exact .of_cut rfl (fun _ h => h) rfl rfl rfl rfl rfl rfl
      (List.Subset.refl _) (by simp [State.onLifecycle])
  · exact .refl _

theorem Calm.of_unstopped (hb : l'.background = l.background)
    (hchildren : ∀ c, l.childDone c = true → l'.childDone c = true)
    (hpend : l'.pendingChildFaultSettlements = l.pendingChildFaultSettlements)
    (hoff : l'.globalOffOwnerTask = l.globalOffOwnerTask)
    (hnone : l.stoppingChildGeneration ≠ some l.childGeneration) :
    l.Calm l' where
  inv := by
    intro h
    refine ⟨fun id hid => hb ▸ h.owner id (hoff ▸ hid), ?_⟩
    intro id hid
    rw [hpend]
    refine h.pending id ?_
    rw [mem_unsettled] at hid ⊢
    rwa [hb] at hid
  begun := .of_background hb
  drift := by
    intro t owned
    have hfree : ∀ cut, ¬ l.Holds t cut := by
      intro cut h
      exact hnone (h.stopping.trans (congrArg some h.generation.symm))
    exact .of_background hb hchildren (fun _ cut h => absurd h (hfree cut))
      fun _ cut h => absurd h (hfree cut)

theorem childDone_append {c : Nat} {more : List ChildTask}
    (hl : l'.children = l.children ++ more) (h : l.childDone c = true) :
    l'.childDone c = true := by
  unfold childDone at h ⊢
  cases hc : l.children[c]? with
  | none =>
      rw [hc] at h
      cases h
  | some child =>
      rw [hl, List.getElem?_append_left (List.getElem?_eq_some_iff.mp hc).1]
      exact h

theorem childDone_modify {c task : Nat} {f : ChildTask → ChildTask}
    (hl : l'.children = l.children.modify task f)
    (hf : ∀ child, l.children[task]? = some child →
      child.outcome.isSome = true → (f child).outcome.isSome = true)
    (h : l.childDone c = true) : l'.childDone c = true := by
  unfold childDone at h ⊢
  rw [hl, List.getElem?_modify]
  cases hc : l.children[c]? with
  | none =>
      rw [hc] at h
      cases h
  | some child =>
      rw [hc] at h
      by_cases ht : task = c
      · subst ht
        simpa using hf child hc h
      · simpa [ht] using h

theorem calm_startChildren (hnone : l.stoppingChildGeneration = none) :
    l.Calm l.startChildren :=
  .of_unstopped rfl (fun _ h => childDone_append rfl h) rfl rfl
    (by simp [hnone])

theorem calm_cancelChild (task : Nat) (l : Lifecycle) :
    l.Calm (l.cancelChild task) := by
  unfold cancelChild
  split
  · refine .of_cut rfl (fun _ h => childDone_modify rfl ?_ h) rfl rfl rfl rfl
      rfl rfl (List.Subset.refl _) fun _ h => h
    intro child _ hdone
    exact hdone
  · exact .refl l

theorem calm_cancelChildren (cut : StopCut) (s : State) :
    s.lifecycle.Calm (s.cancelChildren cut).lifecycle := by
  have hfold : ∀ (tasks : List Nat) (l : Lifecycle),
      l.Calm (tasks.foldl (fun l c => l.cancelChild c) l) := by
    intro tasks
    induction tasks with
    | nil => exact Calm.refl
    | cons task tasks ih =>
        intro l
        exact (calm_cancelChild task l).trans (ih _)
  exact hfold _ _

theorem calm_adoptChild {role : ChildRole} {current task : Nat} {s : State}
    (hnone : s.lifecycle.stoppingChildGeneration ≠
      some s.lifecycle.childGeneration) :
    s.lifecycle.Calm (s.adoptChild role current task).lifecycle := by
  have hforget : ∀ m : Lifecycle,
      m.forgetConsumedChildIfUnowned current =
        { m with
          consumedChildTasks :=
            (m.forgetConsumedChildIfUnowned current).consumedChildTasks } := by
    intro m
    unfold forgetConsumedChildIfUnowned
    split <;> rfl
  have hset : ∀ m : Lifecycle, ∃ col mon, m.setChild role (some task) =
      { m with collectTask := col, monitorTask := mon } := by
    intro m
    cases role
    · exact ⟨some task, m.monitorTask, rfl⟩
    · exact ⟨m.collectTask, some task, rfl⟩
  obtain ⟨col, mon, hm⟩ := hset s.lifecycle
  unfold State.adoptChild State.onLifecycle
  simp only [hm]
  rw [hforget]
  exact .of_unstopped rfl (fun _ h => h) rfl rfl hnone

/-! ## Changes that only the owner of the stop cut makes -/

/-- A change that only the owner `u` of a stop cut may make, and that nobody
else's stop cut notices. -/
structure Owned (u : Nat) (l l' : Lifecycle) : Prop where
  inv : l.Inv → l'.Inv
  begun : l.Unbegun l'
  drift : ∀ t owned, u ≠ t → (owned → l.stopOwner = some u) →
    Drift t owned False l l'

theorem Calm.toOwned (h : l.Calm l') (u : Nat) : Owned u l l' :=
  ⟨h.inv, h.begun, fun t o _ _ => h.drift t o⟩

theorem Holds.not_of_owner {u : Nat} (hne : u ≠ t)
    (howner : l.stopOwner = some u) : ¬ l.Holds t cut := by
  intro h
  rw [h.owner] at howner
  exact hne (Option.some.inj howner).symm

theorem Owned.of_background {u : Nat} (hb : l'.background = l.background)
    (hchildren : l'.children = l.children)
    (hpend : l'.pendingChildFaultSettlements = l.pendingChildFaultSettlements)
    (hoff : l'.globalOffOwnerTask = l.globalOffOwnerTask) : Owned u l l' where
  inv := by
    intro h
    refine ⟨fun id hid => hb ▸ h.owner id (hoff ▸ hid), ?_⟩
    intro id hid
    rw [hpend]
    refine h.pending id ?_
    rw [mem_unsettled] at hid ⊢
    rwa [hb] at hid
  begun := .of_background hb
  drift := by
    intro t owned hne howner
    refine .of_background hb (fun c h => ?_)
      (fun ho cut h => absurd h (Holds.not_of_owner hne (howner ho)))
      fun ho cut h => absurd h (Holds.not_of_owner hne (howner ho))
    simpa [childDone, hchildren] using h

theorem owned_restoreCut (u : Nat) (cut : StopCut) (s : State) :
    Owned u s.lifecycle (s.restoreCut cut).lifecycle := by
  unfold State.restoreCut State.onLifecycle
  dsimp only
  split <;> exact .of_background rfl rfl rfl rfl

theorem owned_retainShutdownHold (u : Nat) (s : State) :
    Owned u s.lifecycle s.retainShutdownHold.lifecycle := by
  unfold State.retainShutdownHold
  split
  · exact (Calm.refl _).toOwned u
  · constructor
    · intro h
      have := inv_retain h State.shutdownHoldReason .safetyShutdown
      exact ⟨this.owner, this.pending⟩
    · exact .append rfl
    · intro t owned hne howner
      have hretain : Drift t owned False s.lifecycle
          (s.lifecycle.retainChildFaultSettlement State.shutdownHoldReason
            .safetyShutdown) :=
        .retain _ _ fun ho cut h =>
          absurd h (Holds.not_of_owner hne (howner ho))
      exact
        { tasks := hretain.tasks
          children := hretain.children
          held := fun ho cut h => { hretain.held ho cut h with }
          settled := hretain.settled }

theorem forgetConsumedChildren_eq (tasks : List Nat) (l : Lifecycle) :
    ∃ consumed,
      tasks.foldl (fun l c => l.forgetConsumedChildIfUnowned c) l =
        { l with consumedChildTasks := consumed } := by
  induction tasks generalizing l with
  | nil => exact ⟨l.consumedChildTasks, rfl⟩
  | cons task tasks ih =>
      rw [List.foldl_cons]
      obtain ⟨consumed, h⟩ := ih (l.forgetConsumedChildIfUnowned task)
      refine ⟨consumed, h.trans ?_⟩
      unfold forgetConsumedChildIfUnowned
      split <;> rfl

theorem owned_releaseChildren (u : Nat) (cut : StopCut) (s : State) :
    Owned u s.lifecycle (s.releaseChildren cut).lifecycle := by
  obtain ⟨col, mon, hm⟩ : ∃ col mon,
      (if s.lifecycle.childGeneration = cut.generation then
        { s.lifecycle with
          collectTask :=
            if s.lifecycle.collectTask = cut.collect then none
            else s.lifecycle.collectTask
          monitorTask :=
            if s.lifecycle.monitorTask = cut.monitor then none
            else s.lifecycle.monitorTask }
      else s.lifecycle) =
        { s.lifecycle with collectTask := col, monitorTask := mon } := by
    split
    · exact ⟨_, _, rfl⟩
    · exact ⟨_, _, rfl⟩
  unfold State.releaseChildren State.onLifecycle
  dsimp only
  rw [hm]
  obtain ⟨consumed, hc⟩ := forgetConsumedChildren_eq cut.tasks
    { s.lifecycle with collectTask := col, monitorTask := mon }
  rw [hc]
  obtain ⟨stopping, hs, _⟩ := completeStoppingGenerationIfSettled_eq
    (some cut.generation)
    { s.lifecycle with
      collectTask := col
      monitorTask := mon
      consumedChildTasks := consumed }
  rw [hs]
  exact .of_background rfl rfl rfl rfl

end Lifecycle

end Safety
end CryoDaq
