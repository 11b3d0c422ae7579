import CryoDaq.Async.Rely
import CryoDaq.Experiments.Writes

/-!
# The discipline of the lifecycle

What the threads of one manager may do to the shared state.

**The core.**  `Core` is what only the owner of the lifecycle lock changes: the
directory, the memory and the ghosts about them.  A `Quiet` core is what a thread
finds when it takes the lock.

**Reservations.**  A reservation is made and ended under the mutation lock.  As
long as none was made over a pending journal, what callers see of the lifecycle
is what they saw when the reservation was made, up to the phases that the holder
itself has entered; a holder that waits in its block has entered none.
-/

namespace CryoDaq
namespace Experiments

open Async Op

variable {δ κ : Type}

/-- What only the owner of the lifecycle lock changes. -/
structure Core (δ κ : Type) where
  disk : Disk δ κ
  memory : Memory δ
  ready : Bool
  modeWriteFailed : Bool
  history : List (Disk δ κ)
  recorded : List (Note κ)

def World.core (w : World δ κ) : Core δ κ where
  disk := w.disk
  memory := w.memory
  ready := w.ready
  modeWriteFailed := w.modeWriteFailed
  history := w.history
  recorded := w.recorded

def World.withCore (w : World δ κ) (c : Core δ κ) : World δ κ :=
  { w with
    disk := c.disk
    memory := c.memory
    ready := c.ready
    modeWriteFailed := c.modeWriteFailed
    history := c.history
    recorded := c.recorded }

namespace Core

def write (c : Core δ κ) (d : Disk δ κ) : Core δ κ :=
  { c with disk := d, history := c.disk :: c.history }

def remember (c : Core δ κ) (m : Memory δ) : Core δ κ := { c with memory := m }

/-- What callers see of the lifecycle. -/
def view (c : Core δ κ) : View δ κ := c.disk.view c.memory

end Core

/-- The record of the active experiment that the metadata holds. -/
def Disk.activeRecord (d : Disk δ κ) (f : StateFile δ) : Option ExperimentInfo :=
  f.activeExperimentId.bind fun id => (d.metadata id).bind Metadata.experiment

/-- The memory holds the active experiment of the files. -/
def ActiveAgrees (d : Disk δ κ) (m : Memory δ) (f : StateFile δ) : Prop :=
  m.visible.active = d.activeRecord f

/-- What an entry of the record says has been in the metadata. -/
def Note.In : Note κ → Disk δ κ → Prop
  | .photo id entry, d => entry ∈ (d.readMetadata id).artifactIndex
  | .run id record, d => record ∈ (d.readMetadata id).runRecords
  | .phase id entry, d => entry ∈ (d.readMetadata id).phases

variable (S : Setting δ κ) [DecidableEq δ]

/-- No transition is under way, and the memory holds what the files say. -/
structure Idle (c : Core δ κ) (f : StateFile δ) : Prop where
  journal : c.disk.journal = none
  settled : Settled S c.disk f
  active : ActiveAgrees c.disk c.memory f
  identity : c.memory.state.activeExperimentId = f.activeExperimentId
  state : c.modeWriteFailed = false → loadedMemory f c.memory = c.memory

/-- What a thread finds when it takes the lifecycle lock. -/
structure Quiet (c : Core δ κ) : Prop where
  idle : c.disk.journal = none → ∃ f, Idle S c f
  committed : ∀ j f, c.disk.journal = some j → c.disk.state = some f →
    f.revision ≠ j.request.predecessor.revision → ActiveAgrees c.disk c.memory f

/-- What holds of every state of a manager. -/
structure Inv (w : World δ κ) : Prop where
  chronicle : Chronicle S (w.disk :: w.history)
  noted : ∀ n ∈ w.recorded, ∃ d ∈ w.disk :: w.history, n.In d
  quiet : w.lifecycleLock = none → w.ready = true → Quiet S w.core
  unready : w.ready = false → w.durableMutationId = none
  unstarted : w.started = false → w.lifecycleLock = none ∧ w.ready = false
  reserved : ∀ id, w.overlapped = false → w.durableMutationId = some id →
    w.reservedView.map (View.advanced id w.ownPhases) = some w.core.view ∧
      w.disk.journal = none ∧ w.activeExperimentId = some id
  held : (w.durableMutationId = none ∧ w.holders = []) ∨
    ∃ id t, w.durableMutationId = some id ∧ w.holders = [t]

theorem Inv.no_holder {w : World δ κ} (h : Inv S w) (hnone : w.durableMutationId = none) :
    w.holders = [] := by
  rcases h.held with ⟨_, hholders⟩ | ⟨id, t, hid, _⟩
  · exact hholders
  · rw [hnone] at hid
    cases hid

/-- What everything else may do while a thread is suspended. -/
structure Rely (t : ℕ) (w w' : World δ κ) : Prop where
  lifecycle : w'.lifecycleLock = some t ↔ w.lifecycleLock = some t
  mutation : w'.mutationLock = some t ↔ w.mutationLock = some t
  holder : w'.holders = [t] ↔ w.holders = [t]
  core : w.lifecycleLock = some t → w'.core = w.core
  reservation : w.mutationLock = some t →
    w'.durableMutationId = w.durableMutationId ∧ w'.holders = w.holders
  owned : w.holders = [t] → w'.claim = w.claim
  ready : w.ready = true → w'.ready = true

/-- What a thread may do to the state in one update. -/
structure Guar (t : ℕ) (w w' : World δ κ) : Prop where
  inv : Inv S w'
  started : w'.started = w.started
  lifecycle : ∀ u, t ≠ u → (w'.lifecycleLock = some u ↔ w.lifecycleLock = some u)
  mutation : ∀ u, t ≠ u → (w'.mutationLock = some u ↔ w.mutationLock = some u)
  holder : ∀ u, t ≠ u → (w'.holders = [u] ↔ w.holders = [u])
  core : w'.core = w.core ∨ w.lifecycleLock = some t
  reservation : (w'.durableMutationId = w.durableMutationId ∧ w'.holders = w.holders) ∨
    w.mutationLock = some t
  owned : ∀ u, t ≠ u → w.holders = [u] → w'.claim = w.claim
  ready : w.ready = true → w'.ready = true

/-- What a thread promises where it is suspended. -/
def Parked (t : ℕ) : Wait → World δ κ → Prop
  | .held id, w => w.holders = [t] ∧ w.claim = (some id, [])
  | _, _ => True

/-- A thread owns nothing. -/
structure Free (t : ℕ) (w : World δ κ) : Prop where
  lifecycle : w.lifecycleLock ≠ some t
  mutation : w.mutationLock ≠ some t
  holder : w.holders ≠ [t]

omit [DecidableEq δ] in
theorem Rely.refl (t : ℕ) (w : World δ κ) : Rely t w w :=
  ⟨Iff.rfl, Iff.rfl, Iff.rfl, fun _ => rfl, fun _ => ⟨rfl, rfl⟩, fun _ => rfl, id⟩

omit [DecidableEq δ] in
theorem Rely.trans {t : ℕ} {w v u : World δ κ} (h : Rely t w v) (k : Rely t v u) :
    Rely t w u where
  lifecycle := k.lifecycle.trans h.lifecycle
  mutation := k.mutation.trans h.mutation
  holder := k.holder.trans h.holder
  core ht := (k.core (h.lifecycle.mpr ht)).trans (h.core ht)
  reservation ht :=
    ⟨(k.reservation (h.mutation.mpr ht)).1.trans (h.reservation ht).1,
      (k.reservation (h.mutation.mpr ht)).2.trans (h.reservation ht).2⟩
  owned ht := (k.owned (h.holder.mpr ht)).trans (h.owned ht)
  ready ht := k.ready (h.ready ht)

variable {S}

theorem Guar.rely {t u : ℕ} {w w' : World δ κ} (hne : t ≠ u) (h : Guar S t w w') :
    Rely u w w' where
  lifecycle := h.lifecycle u hne
  mutation := h.mutation u hne
  holder := h.holder u hne
  core hu := by
    rcases h.core with hcore | ht
    · exact hcore
    · exact absurd (Option.some.inj (ht.symm.trans hu)) hne
  reservation hu := by
    rcases h.reservation with hsame | ht
    · exact hsame
    · exact absurd (Option.some.inj (ht.symm.trans hu)) hne
  owned := h.owned u hne
  ready := h.ready

theorem launch_cases {c : Call κ} {w w' : World δ κ} {program : ℕ → Op δ κ Unit}
    (h : launch S c w = some (w', program)) :
    (program = fun t => c.method S t) ∧
      ((w' = { w with started := true } ∧ w.started = false ∧
          ∃ incarnation, c = .construct incarnation) ∨
        (w' = w ∧ w.ready = true ∧ ∀ incarnation, c ≠ .construct incarnation)) := by
  cases c with
  | construct incarnation =>
      unfold launch at h
      by_cases hs : w.started = true
      · rw [if_pos hs] at h
        cases h
      · rw [if_neg hs] at h
        obtain ⟨rfl, rfl⟩ := Prod.mk.inj (Option.some.inj h)
        exact ⟨rfl, .inl ⟨rfl, Bool.eq_false_iff.mpr hs, incarnation, rfl⟩⟩
  | _ =>
      unfold launch at h
      dsimp only at h
      by_cases hr : w.ready = true
      · rw [if_pos hr] at h
        obtain ⟨rfl, rfl⟩ := Prod.mk.inj (Option.some.inj h)
        exact ⟨rfl, .inr ⟨rfl, hr, fun _ hc => by cases hc⟩⟩
      · rw [if_neg hr] at h
        cases h

theorem Inv.started {w : World δ κ} (h : Inv S w) : Inv S { w with started := true } where
  chronicle := h.chronicle
  noted := h.noted
  quiet := h.quiet
  unready := h.unready
  unstarted hs := by cases hs
  reserved := h.reserved
  held := h.held

variable (S)

def discipline : Discipline (manager S) where
  inv := Inv S
  rely := Rely
  guar := Guar S
  parked := Parked
  post := Free
  rely_refl := Rely.refl
  rely_trans _ _ _ _ := Rely.trans
  guar_inv _ _ _ _ h := h.inv
  guar_rely _ _ _ _ hne _ h := h.rely hne
  parked_stable t wait w w' h _ hp := by
    cases wait with
    | held id => exact ⟨h.holder.mpr hp.1, (h.owned hp.1).trans hp.2⟩
    | _ => trivial
  post_stable t w w' h _ hp :=
    ⟨fun ht => hp.lifecycle (h.lifecycle.mp ht), fun ht => hp.mutation (h.mutation.mp ht),
      fun ht => hp.holder (h.holder.mp ht)⟩
  environment_inv e := e.elim
  environment_rely e := e.elim
  launch_inv c w w' program hl hi := by
    rcases (launch_cases hl).2 with ⟨rfl, _⟩ | ⟨rfl, _⟩
    · exact hi.started
    · exact hi
  launch_rely c t w w' program hl hi := by
    rcases (launch_cases hl).2 with ⟨rfl, _⟩ | ⟨rfl, _⟩
    · exact ⟨Iff.rfl, Iff.rfl, Iff.rfl, fun _ => rfl, fun _ => ⟨rfl, rfl⟩, fun _ => rfl, id⟩
    · exact Rely.refl t _

end Experiments
end CryoDaq
