import CryoDaq.Experiments.Discipline

/-!
# Under the lifecycle lock

**Methods.**  `Locked S t m op Q c` says that a method run by the owner of the
lifecycle lock from the core `c` keeps the discipline and ends in `Q`.  The mode
says what else the thread holds.

**The mutation lock.**  `Has` speaks of a thread whether or not it owns the
lifecycle lock; the rules for the mutation lock and for reservations are proved
for it.
-/

namespace CryoDaq
namespace Experiments

open Async Op

variable {δ κ α γ : Type} (S : Setting δ κ) [DecidableEq δ]

/-- What the owner of the lifecycle lock holds besides. -/
inductive Mode
  /-- Nothing. -/
  | free
  /-- The mutation lock. -/
  | inner
  /-- The mutation lock, and there is no reservation. -/
  | admitted
  /-- The reservation. -/
  | reserving (experimentId : String)
  /-- The mutation lock and the reservation. -/
  | securing (experimentId : String)
  /-- The same, and phases may have been entered. -/
  | advancing (experimentId : String)

def Mode.Holds (t : ℕ) : Mode → World δ κ → Prop
  | .free, w => w.mutationLock ≠ some t ∧ w.holders ≠ [t]
  | .inner, w => w.mutationLock = some t ∧ w.holders ≠ [t]
  | .admitted, w => w.mutationLock = some t ∧ w.holders = [] ∧ w.durableMutationId = none
  | .reserving id, w => w.mutationLock ≠ some t ∧ w.holders = [t] ∧ w.claim = (some id, [])
  | .securing id, w => w.mutationLock = some t ∧ w.holders = [t] ∧ w.claim = (some id, [])
  | .advancing id, w =>
      w.mutationLock = some t ∧ w.holders = [t] ∧ w.durableMutationId = some id

/-- The core may be changed without a reservation noticing. -/
def Mode.Allows (m : Mode) (c c' : Core δ κ) : Prop :=
  m = .admitted ∨ c.ready = false ∨ c.disk.journal.isSome = true ∨ c'.view = c.view

/-- A thread owns the lifecycle lock over a core. -/
structure Held (t : ℕ) (m : Mode) (c : Core δ κ) (w : World δ κ) : Prop where
  inv : Inv S w
  lifecycle : w.lifecycleLock = some t
  core : w.core = c
  mode : m.Holds t w

/-- A method keeps the discipline under the lifecycle lock and ends in `Q`. -/
structure Locked (t : ℕ) (m : Mode) (op : Op δ κ α)
    (Q : Except Failure α → Core δ κ → Prop) (c : Core δ κ) : Prop where
  run : ∀ w, Held S t m c w →
    wp ((discipline S).contract t) true op (fun r w' => ∃ c', Held S t m c' w' ∧ Q r c') w

section Held

variable {S} {t : ℕ} {m : Mode} {c c' : Core δ κ} {w w' : World δ κ}

omit [DecidableEq δ] in
theorem Mode.Holds.rely (h : m.Holds t w) (hr : Rely t w w') : m.Holds t w' := by
  cases m with
  | free => exact ⟨fun ht => h.1 (hr.mutation.mp ht), fun ht => h.2 (hr.holder.mp ht)⟩
  | inner => exact ⟨hr.mutation.mpr h.1, fun ht => h.2 (hr.holder.mp ht)⟩
  | admitted =>
      obtain ⟨hlock, hholder, hnone⟩ := h
      obtain ⟨hid, hsame⟩ := hr.reservation hlock
      exact ⟨hr.mutation.mpr hlock, hsame.trans hholder, hid.trans hnone⟩
  | reserving id =>
      exact ⟨fun ht => h.1 (hr.mutation.mp ht), hr.holder.mpr h.2.1,
        (hr.owned h.2.1).trans h.2.2⟩
  | securing id =>
      exact ⟨hr.mutation.mpr h.1, hr.holder.mpr h.2.1, (hr.owned h.2.1).trans h.2.2⟩
  | advancing id =>
      exact ⟨hr.mutation.mpr h.1, hr.holder.mpr h.2.1,
        (congrArg Prod.fst (hr.owned h.2.1)).trans h.2.2⟩

theorem Held.rely (h : Held S t m c w) (hr : Rely t w w') (hi : Inv S w') :
    Held S t m c w' where
  inv := hi
  lifecycle := hr.lifecycle.mpr h.lifecycle
  core := (hr.core h.lifecycle).trans h.core
  mode := h.mode.rely hr

theorem Held.disk (h : Held S t m c w) : w.disk = c.disk := congrArg Core.disk h.core

theorem Held.memory (h : Held S t m c w) : w.memory = c.memory := congrArg Core.memory h.core

theorem Held.history (h : Held S t m c w) : w.history = c.history :=
  congrArg Core.history h.core

theorem Held.ready (h : Held S t m c w) : w.ready = c.ready := congrArg Core.ready h.core

theorem Held.recorded (h : Held S t m c w) : w.recorded = c.recorded :=
  congrArg Core.recorded h.core

theorem Held.chronicle (h : Held S t m c w) : Chronicle S (c.disk :: c.history) := by
  rw [← h.disk, ← h.history]
  exact h.inv.chronicle

omit [DecidableEq δ] in
theorem activeExperimentId_of_view (h : c'.view = c.view) :
    c'.memory.active.map ExperimentInfo.experimentId =
      c.memory.active.map ExperimentInfo.experimentId := by
  have hactive : c'.memory.visible.active = c.memory.visible.active :=
    congrArg (fun v : View δ κ => v.memory.active) h
  have hid := congrArg (Option.map ExperimentInfo.experimentId) hactive
  unfold Memory.visible at hid
  rw [Option.map_map, Option.map_map] at hid
  exact hid

omit [DecidableEq δ] in
theorem journal_of_view (h : c'.view = c.view) (hj : c.disk.journal = none) :
    c'.disk.journal = none := by
  have hsome : c'.disk.journal.isSome = c.disk.journal.isSome :=
    congrArg View.journaled h
  rw [hj] at hsome
  exact Option.not_isSome_iff_eq_none.mp (Bool.eq_false_iff.mp hsome)

theorem Held.changed_inv (h : Held S t m c w) (hallow : m.Allows c c')
    (hchronicle : Chronicle S (c'.disk :: c'.history))
    (hnoted : ∀ n ∈ c'.recorded, ∃ d ∈ c'.disk :: c'.history, n.In d)
    (hready : c.ready = true → c'.ready = true) : Inv S (w.withCore c') where
  chronicle := hchronicle
  noted := hnoted
  quiet hfree := by
    have hown : w.lifecycleLock = none := hfree
    rw [h.lifecycle] at hown
    cases hown
  unready hnot := by
    refine h.inv.unready (h.ready.trans ?_)
    by_contra hr
    exact absurd (hready (Bool.eq_true_of_not_eq_false hr)) (Bool.eq_false_iff.mp hnot)
  unstarted hs := by
    have hown := (h.inv.unstarted hs).1
    rw [h.lifecycle] at hown
    cases hown
  reserved id hover hid := by
    have hid' : w.durableMutationId = some id := hid
    obtain ⟨hview, hjournal, hactive⟩ := h.inv.reserved id hover hid'
    rw [h.core] at hview
    rw [h.disk] at hjournal
    rcases hallow with rfl | hunready | hsome | hsame
    · rw [h.mode.2.2] at hid'
      cases hid'
    · rw [h.inv.unready (h.ready.trans hunready)] at hid'
      cases hid'
    · rw [hjournal] at hsome
      cases hsome
    · refine ⟨hview.trans (congrArg some hsame.symm), journal_of_view hsame hjournal, ?_⟩
      refine (activeExperimentId_of_view hsame).trans ?_
      rw [← h.memory]
      exact hactive
  held := h.inv.held

theorem Held.changed (h : Held S t m c w) (hallow : m.Allows c c')
    (hchronicle : Chronicle S (c'.disk :: c'.history))
    (hnoted : ∀ n ∈ c'.recorded, ∃ d ∈ c'.disk :: c'.history, n.In d)
    (hready : c.ready = true → c'.ready = true) :
    Guar S t w (w.withCore c') ∧ Held S t m c' (w.withCore c') := by
  have hinv := h.changed_inv hallow hchronicle hnoted hready
  refine ⟨⟨hinv, rfl, fun _ _ => Iff.rfl, fun _ _ => Iff.rfl, fun _ _ => Iff.rfl,
    .inr h.lifecycle, .inl ⟨rfl, rfl⟩, fun _ _ _ => rfl, ?_⟩, hinv, h.lifecycle, rfl, ?_⟩
  · intro hr
    exact hready (h.ready.symm.trans hr)
  · cases m <;> exact h.mode

theorem Held.noted_write (h : Held S t m c w) {d : Disk δ κ} :
    ∀ n ∈ (c.write d).recorded, ∃ e ∈ (c.write d).disk :: (c.write d).history, n.In e := by
  intro n hn
  have hrecorded : n ∈ w.recorded := h.recorded ▸ hn
  obtain ⟨e, he, hin⟩ := h.inv.noted n hrecorded
  rw [h.disk, h.history] at he
  exact ⟨e, List.mem_cons_of_mem _ he, hin⟩

omit [DecidableEq δ] in
theorem view_advance (c : Core δ κ) (id : String) (entry : PhaseEntry) :
    (c.write (c.disk.setMetadata id ((c.disk.readMetadata id).advance entry))).view =
      c.view.advance id entry := rfl

theorem Held.writePhase {id : String} {entry : PhaseEntry} (h : Held S t (.advancing id) c w)
    (hwrite : Write S c.history c.disk
      (c.disk.setMetadata id ((c.disk.readMetadata id).advance entry))) :
    let d := c.disk.setMetadata id ((c.disk.readMetadata id).advance entry)
    Guar S t w (w.writePhase t d entry) ∧
      Held S t (.advancing id) (c.write d) (w.writePhase t d entry) := by
  intro d
  have hholders : w.holders = [t] := h.mode.2.1
  have hcore : (w.writePhase t d entry).core = c.write d := by
    rw [← h.core]
    rfl
  have hown : (w.writePhase t d entry).ownPhases = w.ownPhases ++ [entry] := if_pos hholders
  have hinv : Inv S (w.writePhase t d entry) := by
    refine ⟨?_, ?_, ?_, h.inv.unready, ?_, ?_, h.inv.held⟩
    · change Chronicle S (d :: w.disk :: w.history)
      rw [h.disk, h.history]
      exact .write h.chronicle hwrite
    · intro n hn
      obtain ⟨e, he, hin⟩ := h.inv.noted n hn
      exact ⟨e, List.mem_cons_of_mem _ he, hin⟩
    · intro hfree
      exact nomatch h.lifecycle.symm.trans hfree
    · intro hs
      exact nomatch h.lifecycle.symm.trans (h.inv.unstarted hs).1
    · intro other hover hid
      obtain rfl := Option.some.inj (hid.symm.trans h.mode.2.2)
      obtain ⟨hview, hjournal, hactive⟩ := h.inv.reserved other hover hid
      refine ⟨?_, ?_, hactive⟩
      · obtain ⟨v, hv, hsame⟩ := Option.map_eq_some_iff.mp hview
        refine Option.map_eq_some_iff.mpr ⟨v, hv, ?_⟩
        rw [hown, hcore, view_advance, ← h.core, ← hsame]
        exact List.foldl_append
      · rw [h.disk] at hjournal
        exact hjournal
  refine ⟨⟨hinv, rfl, fun _ _ => Iff.rfl, fun _ _ => Iff.rfl, fun _ _ => Iff.rfl,
    .inr h.lifecycle, .inl ⟨rfl, rfl⟩, ?_, fun hr => hr⟩, hinv, h.lifecycle, hcore, h.mode⟩
  intro u hne hu
  exact absurd (List.singleton_inj.mp (hholders.symm.trans hu)) hne

end Held

namespace Locked

variable {S} {t : ℕ} {m : Mode} {c : Core δ κ}
variable {Q Q' R : Except Failure α → Core δ κ → Prop}

theorem ret {a : α} (h : Q (.ok a) c) : Locked S t m (Coro.ret a) Q c :=
  ⟨fun _ hw => ⟨c, hw, h⟩⟩

theorem raise {e : Failure} (h : Q (.error e) c) : Locked S t m (Coro.raise e) Q c :=
  ⟨fun _ hw => ⟨c, hw, h⟩⟩

theorem mono {op : Op δ κ α} (h : Locked S t m op Q c) (hQ : ∀ r c', Q r c' → Q' r c') :
    Locked S t m op Q' c := by
  refine ⟨fun w hw => wp_mono (h.run w hw) ?_⟩
  rintro r w' ⟨c', hw', hr⟩
  exact ⟨c', hw', hQ r c' hr⟩

theorem seq {op : Op δ κ α} {f : α → Op δ κ γ} {Q : Except Failure γ → Core δ κ → Prop}
    (h : Locked S t m op R c) (hok : ∀ a c', R (.ok a) c' → Locked S t m (f a) Q c')
    (herror : ∀ e c', R (.error e) c' → Q (.error e) c') :
    Locked S t m (op >>= f) Q c := by
  refine ⟨fun w hw => wp_seq (h.run w hw) ?_ ?_⟩
  · rintro a w' ⟨c', hw', ha⟩
    exact (hok a c' ha).run w' hw'
  · rintro e w' ⟨c', hw', he⟩
    exact ⟨c', hw', herror e c' he⟩

theorem known {op : Op δ κ α}
    (h : Chronicle S (c.disk :: c.history) → Locked S t m op Q c) : Locked S t m op Q c :=
  ⟨fun w hw => (h hw.chronicle).run w hw⟩

theorem readThen {f : World δ κ → Op δ κ α}
    (h : ∀ w, Held S t m c w → Locked S t m (f w) Q c) :
    Locked S t m (Coro.read >>= f) Q c :=
  ⟨fun w hw => wp_readThen ((h w hw).run w hw)⟩

theorem ofExceptThen {x : Except Failure α} {f : α → Op δ κ γ}
    {Q : Except Failure γ → Core δ κ → Prop}
    (hok : ∀ a, x = .ok a → Locked S t m (f a) Q c)
    (herror : ∀ e, x = .error e → Q (.error e) c) :
    Locked S t m (Coro.ofExcept x >>= f) Q c := by
  cases x with
  | ok a => exact hok a rfl
  | error e => exact raise (herror e rfl)

theorem refuseThen {x : Option Failure} {f : Unit → Op δ κ γ}
    {Q : Except Failure γ → Core δ κ → Prop}
    (hok : x = none → Locked S t m (f ()) Q c)
    (herror : ∀ e, x = some e → Q (.error e) c) :
    Locked S t m (refuse x >>= f) Q c := by
  cases x with
  | none => exact hok rfl
  | some e => exact raise (herror e rfl)

theorem attemptThen {op : Op δ κ α} {k : Except Failure α → Op δ κ γ}
    {Q : Except Failure γ → Core δ κ → Prop} (h : Locked S t m op R c)
    (hk : ∀ r c', R r c' → Locked S t m (k r) Q c') :
    Locked S t m (Coro.attempt op >>= k) Q c := by
  refine ⟨fun w hw => wp_attemptThen (wp_mono (h.run w hw) ?_)⟩
  rintro r w' ⟨c', hw', hr⟩
  exact (hk r c' hr).run w' hw'

theorem update (c' : Core δ κ) {f : World δ κ → World δ κ} {Q : Except Failure Unit → Core δ κ → Prop}
    (hf : ∀ w : World δ κ, w.core = c → f w = w.withCore c') (hallow : m.Allows c c')
    (hchronicle : Chronicle S (c.disk :: c.history) → Chronicle S (c'.disk :: c'.history))
    (hnoted : (∀ n ∈ c.recorded, ∃ d ∈ c.disk :: c.history, n.In d) →
      ∀ n ∈ c'.recorded, ∃ d ∈ c'.disk :: c'.history, n.In d)
    (hready : c.ready = true → c'.ready = true) (h : Q (.ok ()) c') :
    Locked S t m (Coro.update f) Q c := by
  refine ⟨fun w hw => ?_⟩
  have hrecorded : ∀ n ∈ c.recorded, ∃ d ∈ c.disk :: c.history, n.In d := by
    rw [← hw.recorded, ← hw.disk, ← hw.history]
    exact hw.inv.noted
  obtain ⟨hguar, hheld⟩ :=
    hw.changed hallow (hchronicle hw.chronicle) (hnoted hrecorded) hready
  rw [wp_update, hf w hw.core]
  exact ⟨hguar, c', hheld, h⟩

theorem remember {f : Memory δ → Memory δ} {Q : Except Failure Unit → Core δ κ → Prop}
    (hallow : m.Allows c (c.remember (f c.memory)))
    (h : Q (.ok ()) (c.remember (f c.memory))) : Locked S t m (Op.remember f) Q c := by
  refine update _ ?_ hallow id id id h
  rintro w rfl
  rfl

theorem rememberThen {f : Memory δ → Memory δ} {k : Unit → Op δ κ γ}
    {Q : Except Failure γ → Core δ κ → Prop}
    (hallow : m.Allows c (c.remember (f c.memory)))
    (h : Locked S t m (k ()) Q (c.remember (f c.memory))) :
    Locked S t m (Op.remember f >>= k) Q c := by
  refine seq (R := fun r c' => r = .ok () ∧ c' = c.remember (f c.memory)) ?_ ?_ ?_
  · exact remember hallow ⟨rfl, rfl⟩
  · rintro _ c' ⟨_, rfl⟩
    exact h
  · rintro e c' ⟨he, _⟩
    cases he

theorem pauseThen {wait : Wait} {k : Answer → Op δ κ α}
    (hparked : ∀ w : World δ κ, Parked t wait w)
    (h : ∀ w a, Held S t m c w → wait.enabled a w = true → Locked S t m (k a) Q c) :
    Locked S t m (pause wait >>= k) Q c := by
  refine ⟨fun w hw => ⟨hparked w, ?_⟩⟩
  intro w' r hrely hinv hen _
  have hw' : Held S t m c w' := hw.rely hrely hinv
  refine (h w' r.value hw' ?_).run w' hw'
  rcases hen with hen | ⟨hshield, _⟩
  · exact hen
  · cases hshield

theorem threadThen {f : Unit → Op δ κ γ} {Q : Except Failure γ → Core δ κ → Prop}
    (h : Locked S t m (f ()) Q c) : Locked S t m (thread >>= f) Q c := by
  change Locked S t m (pause .thread >>= fun _ => f ()) Q c
  exact pauseThen (fun _ => trivial) fun _ _ _ _ => h

theorem durably {f : World δ κ → World δ κ} {c' : Core δ κ}
    {Q : Except Failure Unit → Core δ κ → Prop}
    (hchange : ∀ w, Held S t m c w → Guar S t w (f w) ∧ Held S t m c' (f w))
    (hfailed : Q (.error .os) c) (hinterrupted : Q (.error .os) c')
    (hdone : Q (.ok ()) c') : Locked S t m (Op.durably f) Q c := by
  have hupdate {Q' : Except Failure Unit → Core δ κ → Prop} (h : Q' (.ok ()) c') :
      Locked S t m (Coro.update f) Q' c := by
    refine ⟨fun w hw => ?_⟩
    rw [wp_update]
    exact ⟨(hchange w hw).1, c', (hchange w hw).2, h⟩
  refine pauseThen (fun _ => trivial) ?_
  intro w a _ ha
  cases a with
  | done => exact hupdate hdone
  | failed => exact raise hfailed
  | interrupted =>
      refine seq (R := fun r c₁ => r = .ok () ∧ c₁ = c') (hupdate ⟨rfl, rfl⟩) ?_ ?_
      · rintro _ c₁ ⟨_, rfl⟩
        exact raise hinterrupted
      · rintro e c₁ ⟨he, _⟩
        cases he
  | drawn id => exact hupdate hdone

theorem durable {f : Disk δ κ → Disk δ κ} {Q : Except Failure Unit → Core δ κ → Prop}
    (hwrite : Write S c.history c.disk (f c.disk))
    (hallow : m.Allows c (c.write (f c.disk)))
    (hfailed : Q (.error .os) c) (hinterrupted : Q (.error .os) (c.write (f c.disk)))
    (hdone : Q (.ok ()) (c.write (f c.disk))) : Locked S t m (Op.durable f) Q c := by
  refine durably ?_ hfailed hinterrupted hdone
  intro w hw
  have hmatch : w.write (f w.disk) = w.withCore (c.write (f c.disk)) := by
    rw [← hw.core]
    rfl
  rw [hmatch]
  exact hw.changed hallow (.write hw.chronicle hwrite) hw.noted_write id

theorem writePhase {id : String} {entry : PhaseEntry} {f : World δ κ → World δ κ}
    {Q : Except Failure Unit → Core δ κ → Prop}
    (hf : ∀ w, w.core = c → f w = w.writePhase t
      (c.disk.setMetadata id ((c.disk.readMetadata id).advance entry)) entry)
    (hwrite : Write S c.history c.disk
      (c.disk.setMetadata id ((c.disk.readMetadata id).advance entry)))
    (hfailed : Q (.error .os) c)
    (hinterrupted : Q (.error .os)
      (c.write (c.disk.setMetadata id ((c.disk.readMetadata id).advance entry))))
    (hdone : Q (.ok ())
      (c.write (c.disk.setMetadata id ((c.disk.readMetadata id).advance entry)))) :
    Locked S t (.advancing id) (Op.durably f) Q c := by
  refine durably ?_ hfailed hinterrupted hdone
  intro w hw
  rw [hf w hw.core]
  exact hw.writePhase hwrite

theorem sideEffect {Q : Except Failure Unit → Core δ κ → Prop} (hfailed : Q (.error .os) c)
    (hdone : Q (.ok ()) c) : Locked S t m Op.sideEffect Q c := by
  refine pauseThen (fun _ => trivial) ?_
  intro w a _ ha
  cases a with
  | done => exact ret hdone
  | failed => exact raise hfailed
  | interrupted => exact raise hfailed
  | drawn id => exact ret hdone

end Locked

/-! ## The mutation lock and the reservation -/

/-- The mode of a thread that has taken the mutation lock. -/
def Mode.inside : Mode → Mode
  | .free => .inner
  | .reserving id => .securing id
  | m => m

inductive Mode.Outside : Mode → Prop
  | free : Outside .free
  | reserving (id : String) : Outside (.reserving id)

/-- What the mutation lock and the reservation have no part in. -/
structure Steady (t : ℕ) (P : World δ κ → Prop) : Prop where
  rely : ∀ w w', P w → Rely t w w' → P w'
  same : ∀ w w' : World δ κ, P w → w'.core = w.core → w'.lifecycleLock = w.lifecycleLock → P w'

/-- A thread is in a mode, whatever else holds. -/
structure Has (t : ℕ) (P : World δ κ → Prop) (m : Mode) (w : World δ κ) : Prop where
  inv : Inv S w
  base : P w
  mode : m.Holds t w

variable {S}

section Has

variable {t : ℕ} {P : World δ κ → Prop} {m : Mode} {w : World δ κ}

omit [DecidableEq δ] in
theorem steady_core (t : ℕ) (c : Core δ κ) :
    Steady t (fun w : World δ κ => w.lifecycleLock = some t ∧ w.core = c) where
  rely _ _ h hr := ⟨hr.lifecycle.mpr h.1, (hr.core h.1).trans h.2⟩
  same _ _ h hcore hlock := ⟨hlock.trans h.1, hcore.trans h.2⟩

theorem Held.has {c : Core δ κ} (h : Held S t m c w) :
    Has S t (fun w => w.lifecycleLock = some t ∧ w.core = c) m w :=
  ⟨h.inv, ⟨h.lifecycle, h.core⟩, h.mode⟩

theorem Has.held {c : Core δ κ}
    (h : Has S t (fun w => w.lifecycleLock = some t ∧ w.core = c) m w) : Held S t m c w :=
  ⟨h.inv, h.base.1, h.base.2, h.mode⟩

theorem Inv.setMutation (h : Inv S w) (o : Option ℕ) : Inv S (w.setOwner .mutation o) where
  chronicle := h.chronicle
  noted := h.noted
  quiet := h.quiet
  unready := h.unready
  unstarted := h.unstarted
  reserved := h.reserved
  held := h.held

theorem Has.acquire (hP : Steady t P) (hm : m.Outside) (h : Has S t P m w)
    (hfree : w.mutationLock = none) :
    Guar S t w (w.setOwner .mutation (some t)) ∧
      Has S t P m.inside (w.setOwner .mutation (some t)) := by
  refine ⟨⟨h.inv.setMutation _, rfl, fun _ _ => Iff.rfl, ?_, fun _ _ => Iff.rfl, .inl rfl,
    .inl ⟨rfl, rfl⟩, fun _ _ _ => rfl, id⟩, h.inv.setMutation _, hP.same w _ h.base rfl rfl, ?_⟩
  · intro u hne
    rw [hfree]
    exact ⟨fun hu => absurd (Option.some.inj hu) hne, fun hu => by cases hu⟩
  · cases hm with
    | free => exact ⟨rfl, h.mode.2⟩
    | reserving id => exact ⟨rfl, h.mode.2⟩

theorem Has.giveBack (hP : Steady t P) (hm : m.Outside) (h : Has S t P m.inside w) :
    Guar S t w (w.setOwner .mutation none) ∧ Has S t P m (w.setOwner .mutation none) := by
  have hown : w.mutationLock = some t := by
    cases hm with
    | free => exact h.mode.1
    | reserving id => exact h.mode.1
  refine ⟨⟨h.inv.setMutation _, rfl, fun _ _ => Iff.rfl, ?_, fun _ _ => Iff.rfl, .inl rfl,
    .inl ⟨rfl, rfl⟩, fun _ _ _ => rfl, id⟩, h.inv.setMutation _, hP.same w _ h.base rfl rfl, ?_⟩
  · intro u hne
    rw [hown]
    exact ⟨fun hu => (nomatch hu), fun hu => absurd (Option.some.inj hu) hne⟩
  · have hnone : (w.setOwner .mutation none).mutationLock ≠ some t := fun hu => by cases hu
    cases hm with
    | free => exact ⟨hnone, h.mode.2⟩
    | reserving id => exact ⟨hnone, h.mode.2⟩

theorem wp_mutexThen (hP : Steady t P) (hm : m.Outside) {body : Op δ κ α}
    (after : Except Failure α → Mode) (hafter : ∀ r, (after r).Outside)
    (post : Except Failure α → (World δ κ → Prop) → Prop)
    (hbody : ∀ w, Has S t P m.inside w → wp ((discipline S).contract t) true body
      (fun r w' => ∃ P', Steady t P' ∧ post r P' ∧ Has S t P' (after r).inside w') w)
    (h : Has S t P m w) :
    wp ((discipline S).contract t) true (withLock t .mutation body)
      (fun r w' => ∃ P', post r P' ∧ Has S t P' (after r) w') w := by
  have hother : w.owner .mutation ≠ some t := by
    cases hm with
    | free => exact h.mode.1
    | reserving id => exact h.mode.1
  refine wp_readThen ?_
  rw [if_neg hother]
  refine ⟨trivial, ?_⟩
  intro w₁ r hrely hinv hen _
  have h₁ : Has S t P m w₁ := ⟨hinv, hP.rely w w₁ h.base hrely, h.mode.rely hrely⟩
  have hfree : w₁.mutationLock = none := by
    rcases hen with hen | ⟨hshield, _⟩
    · exact Option.isNone_iff_eq_none.mp (Bool.and_eq_true_iff.mp hen).2
    · cases hshield
  obtain ⟨hguar, h₂⟩ := h₁.acquire hP hm hfree
  refine wp_updateThen hguar (wp_attemptThen (wp_mono (hbody _ h₂) ?_))
  rintro r w₃ ⟨P', hP', hpost, h₃⟩
  obtain ⟨hguar₃, h₄⟩ := h₃.giveBack hP' (hafter r)
  refine wp_updateThen hguar₃ ?_
  rw [wp_ofExcept]
  exact ⟨P', hpost, h₄⟩

theorem wp_mutex (hP : Steady t P) (hm : m.Outside) {body : Op δ κ α}
    (after : Except Failure α → Mode) (hafter : ∀ r, (after r).Outside)
    (hbody : ∀ w, Has S t P m.inside w → wp ((discipline S).contract t) true body
      (fun r w' => Has S t P (after r).inside w') w)
    (h : Has S t P m w) :
    wp ((discipline S).contract t) true (withLock t .mutation body)
      (fun r w' => Has S t P (after r) w') w := by
  refine wp_mono (wp_mutexThen hP hm after hafter (fun _ P' => P' = P) ?_ h) ?_
  · intro w₁ h₁
    refine wp_mono (hbody w₁ h₁) ?_
    intro r w₂ h₂
    exact ⟨P, hP, rfl, h₂⟩
  · rintro r w' ⟨P', rfl, h'⟩
    exact h'

theorem wp_reenter {body : Op δ κ α} {Q : Except Failure α → World δ κ → Prop}
    (hown : w.mutationLock = some t) (h : wp ((discipline S).contract t) true body Q w) :
    wp ((discipline S).contract t) true (withLock t .mutation body) Q w := by
  refine wp_readThen ?_
  rw [if_pos (show w.owner .mutation = some t from hown)]
  exact h

theorem Has.reserve (hP : Steady t P) (h : Has S t P .inner w) {id : String}
    (hready : w.ready = true) (hactive : w.activeExperimentId = some id)
    (hnone : w.durableMutationId = none) :
    Guar S t w (w.reserve t id) ∧ Has S t P (.securing id) (w.reserve t id) := by
  have hholder : w.holders = [] := h.inv.no_holder S hnone
  have hholders : (w.reserve t id).holders = [t] := congrArg (t :: ·) hholder
  have hinv : Inv S (w.reserve t id) := by
    refine ⟨h.inv.chronicle, h.inv.noted, h.inv.quiet, ?_, h.inv.unstarted, ?_,
      .inr ⟨id, t, rfl, hholders⟩⟩
    · intro hnot
      exact absurd (hready.symm.trans hnot) (Bool.false_ne_true ∘ Eq.symm)
    · intro other hover hid
      obtain rfl := Option.some.inj hid
      refine ⟨rfl, ?_, hactive⟩
      have hjournal : w.disk.journal.isSome = false := (Bool.or_eq_false_iff.mp hover).2
      exact Option.not_isSome_iff_eq_none.mp (Bool.eq_false_iff.mp hjournal)
  refine ⟨⟨hinv, rfl, fun _ _ => Iff.rfl, fun _ _ => Iff.rfl, ?_, .inl rfl, .inr h.mode.1, ?_,
    fun hr => hr⟩, hinv, hP.same w _ h.base rfl rfl, h.mode.1, hholders, rfl⟩
  · intro u hne
    rw [hholder, hholders]
    exact ⟨fun hu => absurd (List.singleton_inj.mp hu) hne, fun hu => by cases hu⟩
  · intro u _ hu
    rw [hholder] at hu
    cases hu

theorem Has.release (hP : Steady t P) {id : String} (h : Has S t P (.advancing id) w) :
    Guar S t w (w.release t id) ∧ Has S t P .admitted (w.release t id) := by
  have hnone : (w.release t id).durableMutationId = none := if_pos h.mode.2.2
  have hholders : (w.release t id).holders = [] := by
    change w.holders.erase t = []
    rw [h.mode.2.1]
    exact List.erase_cons_head t []
  have hinv : Inv S (w.release t id) := by
    refine ⟨h.inv.chronicle, h.inv.noted, h.inv.quiet, fun _ => hnone, h.inv.unstarted, ?_,
      .inl ⟨hnone, hholders⟩⟩
    intro other _ hid
    rw [hnone] at hid
    cases hid
  refine ⟨⟨hinv, rfl, fun _ _ => Iff.rfl, fun _ _ => Iff.rfl, ?_, .inl rfl, .inr h.mode.1, ?_,
    fun hr => hr⟩, hinv, hP.same w _ h.base rfl rfl, h.mode.1, hholders, hnone⟩
  · intro u hne
    rw [h.mode.2.1, hholders]
    exact ⟨fun hu => (nomatch hu), fun hu => absurd (List.singleton_inj.mp hu) hne⟩
  · intro u hne hu
    exact absurd (List.singleton_inj.mp (h.mode.2.1.symm.trans hu)) hne

theorem Has.advancing {id : String} (h : Has S t P (.securing id) w) :
    Has S t P (.advancing id) w :=
  ⟨h.inv, h.base, h.mode.1, h.mode.2.1, congrArg Prod.fst h.mode.2.2⟩

theorem Has.inner (h : Has S t P .admitted w) : Has S t P .inner w := by
  refine ⟨h.inv, h.base, h.mode.1, ?_⟩
  rw [h.mode.2.1]
  exact fun hu => nomatch hu

theorem makeReservation_wp (hP : Steady t P) (hready : ∀ w, P w → w.ready = true) (id : String)
    (h : Has S t P .inner w) :
    wp ((discipline S).contract t) true (makeReservation t id)
      (fun r w' => (r = .ok () ∧ Has S t P (.securing id) w') ∨
        ((∃ e, r = .error e) ∧ w' = w)) w := by
  refine wp_readThen ?_
  by_cases hactive : w.activeExperimentId = some id
  · rw [if_neg (fun hne => hne hactive)]
    by_cases hnone : w.durableMutationId = none
    · rw [if_neg (fun hne => hne hnone), wp_update]
      obtain ⟨hguar, hhas⟩ := h.reserve hP (hready w h.base) hactive hnone
      exact ⟨hguar, .inl ⟨rfl, hhas⟩⟩
    · rw [if_pos hnone]
      exact .inr ⟨⟨_, rfl⟩, rfl⟩
  · rw [if_pos hactive]
    exact .inr ⟨⟨_, rfl⟩, rfl⟩

theorem checkReservation_wp (id : String) :
    wp ((discipline S).contract t) true (checkReservation id) (fun _ w' => w' = w) w := by
  refine wp_readThen ?_
  by_cases hid : w.durableMutationId ≠ some id
  · rw [if_pos hid]
    exact rfl
  · rw [if_neg hid]
    by_cases hactive : w.activeExperimentId ≠ some id
    · rw [if_pos hactive]
      exact rfl
    · rw [if_neg hactive]
      exact rfl

theorem endReservation_wp (hP : Steady t P) {id : String} (h : Has S t P (.advancing id) w) :
    wp ((discipline S).contract t) true (endReservation t id)
      (fun _ w' => Has S t P .admitted w') w := by
  unfold endReservation
  rw [wp_update]
  exact h.release hP

def entered (id : String) : Except Failure Unit → Mode
  | .ok _ => .reserving id
  | .error _ => .free

theorem enterCas_wp (hP : Steady t P) (hready : ∀ w, P w → w.ready = true) (id : String)
    (h : Has S t P .free w) :
    wp ((discipline S).contract t) true (enterCas t id)
      (fun r w' => Has S t P (entered id r) w') w := by
  refine wp_mutex hP .free (entered id) ?_ ?_ h
  · intro r
    cases r with
    | ok a => exact .reserving id
    | error e => exact .free
  · intro w₁ h₁
    refine wp_mono (makeReservation_wp hP hready id h₁) ?_
    rintro r w₂ (⟨rfl, h₂⟩ | ⟨⟨e, rfl⟩, rfl⟩)
    · exact h₂
    · exact h₁

theorem assertExperimentCas_wp (hP : Steady t P) {id : String} (other : String)
    (h : Has S t P (.reserving id) w) :
    wp ((discipline S).contract t) true (assertExperimentCas t other)
      (fun _ w' => Has S t P (.reserving id) w') w := by
  refine wp_mutex hP (.reserving id) (fun _ => .reserving id) (fun _ => .reserving id) ?_ h
  intro w₁ h₁
  refine wp_mono (checkReservation_wp other) ?_
  rintro r w₂ rfl
  exact h₁

theorem exitCas_wp (hP : Steady t P) {id : String} (h : Has S t P (.reserving id) w) :
    wp ((discipline S).contract t) true (exitCas t id) (fun _ w' => Has S t P .free w') w := by
  refine wp_mutex hP (.reserving id) (fun _ => .free) (fun _ => .free) ?_ h
  intro w₁ h₁
  exact wp_mono (endReservation_wp hP h₁.advancing) fun r w₂ h₂ => h₂.inner

end Has

namespace Locked

variable {t : ℕ} {m : Mode} {c c' : Core δ κ} {Q R : Except Failure α → Core δ κ → Prop}

theorem mutex {body : Op δ κ α} (h : Locked S t .inner body Q c) :
    Locked S t .free (withLock t .mutation body) Q c := by
  refine ⟨fun w hw => ?_⟩
  refine wp_mono (wp_mutexThen (steady_core t c) .free (fun _ => .free) (fun _ => .free)
    (fun r P' => ∃ c', P' = (fun w => w.lifecycleLock = some t ∧ w.core = c') ∧ Q r c')
    ?_ hw.has) ?_
  · intro w₁ h₁
    refine wp_mono (h.run w₁ h₁.held) ?_
    rintro r w₂ ⟨c', h₂, hr⟩
    exact ⟨_, steady_core t c', ⟨c', rfl, hr⟩, h₂.has⟩
  · rintro r w₂ ⟨P', ⟨c', rfl, hr⟩, h₂⟩
    exact ⟨c', h₂.held, hr⟩

theorem reenter (hm : m = .inner ∨ m = .admitted) {body : Op δ κ α}
    (h : Locked S t m body Q c) : Locked S t m (withLock t .mutation body) Q c := by
  refine ⟨fun w hw => wp_reenter ?_ (h.run w hw)⟩
  rcases hm with rfl | rfl
  · exact hw.mode.1
  · exact hw.mode.1

theorem within (hm : m = .free ∨ m = .admitted) {body : Op δ κ α}
    (h : Locked S t m.inside body Q c) : Locked S t m (withLock t .mutation body) Q c := by
  rcases hm with rfl | rfl
  · exact mutex h
  · exact reenter (.inr rfl) h

theorem admission {method : Op δ κ α} (h : Locked S t .admitted method Q c)
    (herror : ∀ e, Q (.error e) c) :
    Locked S t .free
      (withLock t .mutation do
        assertMutationAvailable t
        method) Q c := by
  refine mutex ⟨fun w hw => ?_⟩
  refine wp_seq (R := fun r w' => w' = w ∧ (r = .ok () → w.durableMutationId = none)) ?_ ?_ ?_
  · refine wp_reenter hw.mode.1 (wp_readThen ?_)
    by_cases hid : w.durableMutationId = none
    · rw [if_neg (fun hne => hne hid)]
      exact ⟨rfl, fun _ => hid⟩
    · rw [if_pos hid]
      exact ⟨rfl, fun he => (nomatch he)⟩
  · rintro _ w' ⟨rfl, hnone⟩
    have hid := hnone rfl
    have hholder : w'.holders = [] := hw.inv.no_holder S hid
    have hadmitted : Held S t .admitted c w' :=
      ⟨hw.inv, hw.lifecycle, hw.core, hw.mode.1, hholder, hid⟩
    refine wp_mono (h.run w' hadmitted) ?_
    rintro r w₂ ⟨c', h₂, hr⟩
    refine ⟨c', ⟨h₂.inv, h₂.lifecycle, h₂.core, h₂.mode.1, ?_⟩, hr⟩
    rw [h₂.mode.2.1]
    exact fun hu => nomatch hu
  · rintro e w' ⟨rfl, _⟩
    exact ⟨c, hw, herror e⟩

theorem available {Q : Except Failure Unit → Core δ κ → Prop} (h : Q (.ok ()) c) :
    Locked S t .admitted (assertMutationAvailable t) Q c := by
  refine reenter (.inr rfl) ?_
  refine readThen ?_
  intro w hw
  rw [if_neg (fun hne => hne hw.mode.2.2)]
  exact ret h

theorem reservation {id : String} {body : Op δ κ α} (hready : c.ready = true)
    (h : Locked S t (.advancing id) body R c) (hok : ∀ a c', R (.ok a) c' → Q (.ok a) c')
    (herror : ∀ r c' e, R r c' → Q (.error e) c') (hrefused : ∀ e, Q (.error e) c) :
    Locked S t .admitted (experimentCas t id body) Q c := by
  by_cases hempty : id = ""
  · unfold experimentCas
    rw [if_pos hempty]
    exact raise (hrefused _)
  unfold experimentCas
  rw [if_neg hempty]
  refine ⟨fun w hw => ?_⟩
  refine wp_seq (wp_reenter hw.mode.1 (makeReservation_wp (steady_core t c)
    (fun w' hw' => (congrArg Core.ready hw'.2).trans hready) id hw.has.inner)) ?_ ?_
  · rintro _ w₁ (⟨_, h₁⟩ | ⟨⟨e, he⟩, _⟩)
    · refine wp_attemptThen ?_
      -- The body, and the check that follows it, leave the reservation as it is.
      refine wp_mono (Q := fun r w' => ∃ c', Held S t (.advancing id) c' w' ∧
        (∀ e, Q (.error e) c') ∧ Q r c') ?_ ?_
      · refine wp_seq (h.run w₁ (Has.held h₁.advancing)) ?_ ?_
        · rintro a w₂ ⟨c', h₂, ha⟩
          refine wp_seq (wp_reenter h₂.mode.1 (checkReservation_wp id)) ?_ ?_
          · rintro _ w₃ rfl
            exact ⟨c', h₂, fun e => herror _ c' e ha, hok a c' ha⟩
          · rintro e w₃ rfl
            exact ⟨c', h₂, fun e => herror _ c' e ha, herror _ c' e ha⟩
        · rintro e w₂ ⟨c', h₂, he⟩
          exact ⟨c', h₂, fun e' => herror _ c' e' he, herror _ c' e he⟩
      · rintro r w₂ ⟨c', h₂, hraise, hr⟩
        refine wp_seq (wp_reenter h₂.mode.1
          (endReservation_wp (steady_core t c') h₂.has)) ?_ ?_
        · intro _ w₃ h₃
          rw [wp_ofExcept]
          exact ⟨c', h₃.held, hr⟩
        · intro e w₃ h₃
          exact ⟨c', h₃.held, hraise e⟩
    · cases he
  · rintro e w₁ (⟨he, _⟩ | ⟨_, rfl⟩)
    · cases he
    · exact ⟨c, hw, hrefused e⟩

end Locked

section Lifecycle

variable {t : ℕ} {w : World δ κ}

theorem underLifecycle_wp {body : Op δ κ α} (hinv : Inv S w) (hnone : w.lifecycleLock = none)
    (hstarted : w.started = true) (hfree : Free t w) {Q : Except Failure α → Core δ κ → Prop}
    (h : Locked S t .free body (fun r c => (c.ready = true → Quiet S c) ∧ Q r c) w.core) :
    wp ((discipline S).contract t) true (underLock t .lifecycle body)
      (fun r w' => Free t w' ∧ Inv S w' ∧ Q r w'.core) w := by
  have hinv₁ : Inv S (w.setOwner .lifecycle (some t)) :=
    ⟨hinv.chronicle, hinv.noted, fun hn => (nomatch hn), hinv.unready,
      fun hs => (nomatch hstarted.symm.trans hs), hinv.reserved, hinv.held⟩
  have hguar₁ : Guar S t w (w.setOwner .lifecycle (some t)) := by
    refine ⟨hinv₁, rfl, ?_, fun _ _ => Iff.rfl, fun _ _ => Iff.rfl, .inl rfl, .inl ⟨rfl, rfl⟩,
      fun _ _ _ => rfl, fun hr => hr⟩
    intro u hne
    rw [hnone]
    exact ⟨fun hu => absurd (Option.some.inj hu) hne, fun hu => (nomatch hu)⟩
  refine wp_updateThen hguar₁ (wp_attemptThen (wp_mono (h.run _ ⟨hinv₁, rfl, rfl, ?_⟩) ?_))
  · exact ⟨hfree.mutation, hfree.holder⟩
  · rintro r w₂ ⟨c, h₂, hquiet, hr⟩
    have hinv₃ : Inv S (w₂.setOwner .lifecycle none) := by
      refine ⟨h₂.inv.chronicle, h₂.inv.noted, ?_, h₂.inv.unready, ?_, h₂.inv.reserved,
        h₂.inv.held⟩
      · intro _ hr
        have hcore : (w₂.setOwner .lifecycle none).core = c := h₂.core
        rw [hcore]
        exact hquiet (h₂.ready.symm.trans hr)
      · intro hs
        have hown := (h₂.inv.unstarted hs).1
        rw [h₂.lifecycle] at hown
        cases hown
    have hguar₃ : Guar S t w₂ (w₂.setOwner .lifecycle none) := by
      refine ⟨hinv₃, rfl, ?_, fun _ _ => Iff.rfl, fun _ _ => Iff.rfl, .inl rfl,
        .inl ⟨rfl, rfl⟩, fun _ _ _ => rfl, fun hr => hr⟩
      intro u hne
      rw [h₂.lifecycle]
      exact ⟨fun hu => (nomatch hu), fun hu => absurd (Option.some.inj hu) hne⟩
    refine wp_updateThen hguar₃ ?_
    rw [wp_ofExcept]
    have hcore : (w₂.setOwner .lifecycle none).core = c := h₂.core
    exact ⟨⟨fun hu => (nomatch hu), h₂.mode.1, h₂.mode.2⟩, hinv₃, hcore.symm ▸ hr⟩

theorem withLifecycle_wp {body : Op δ κ α} (hready : w.ready = true)
    (hfree : Free t w) {Q : Except Failure α → Core δ κ → Prop}
    (h : ∀ c, c.ready = true → Quiet S c →
      Locked S t .free body (fun r c' => (c'.ready = true → Quiet S c') ∧ Q r c') c) :
    wp ((discipline S).contract t) true (withLock t .lifecycle body)
      (fun r w' => Free t w' ∧ Inv S w' ∧ Q r w'.core) w := by
  refine wp_readThen ?_
  rw [if_neg (show w.owner .lifecycle ≠ some t from hfree.lifecycle)]
  refine ⟨trivial, ?_⟩
  intro w₁ r hrely hinv₁ hen _
  have hnone : w₁.lifecycleLock = none := by
    rcases hen with hen | ⟨hshield, _⟩
    · exact Option.isNone_iff_eq_none.mp (Bool.and_eq_true_iff.mp hen).2
    · cases hshield
  have hready₁ : w₁.ready = true := hrely.ready hready
  have hstarted : w₁.started = true := by
    by_contra hs
    have hnot := (hinv₁.unstarted (Bool.eq_false_of_not_eq_true hs)).2
    rw [hready₁] at hnot
    cases hnot
  have hfree₁ : Free t w₁ :=
    ⟨fun ht => hfree.lifecycle (hrely.lifecycle.mp ht),
      fun ht => hfree.mutation (hrely.mutation.mp ht),
      fun ht => hfree.holder (hrely.holder.mp ht)⟩
  exact underLifecycle_wp hinv₁ hnone hstarted hfree₁
    (h w₁.core hready₁ (hinv₁.quiet hnone hready₁))

end Lifecycle

end Experiments
end CryoDaq
