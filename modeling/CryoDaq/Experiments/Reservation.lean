import CryoDaq.Experiments.Threads

/-!
# Reservations of an experiment

What a holder inside `experiment_cas` can rely on, whatever the other threads do.

**Frozen.**  While an experiment is reserved it is the active one, and what the
files and the manager show of the lifecycle, the phases included, is what they
showed when the reservation was made.  `advance_phase` makes its own reservation;
the phases that a holder itself enters in its block are all that is added.

**One holder.**  Nobody else is inside a block, and a task in the body of a block
is its holder.

**The overlap.**  The decorators run the recovery before they look for a
reservation, so a journal that was pending when the reservation was made is
applied inside it.
-/

namespace CryoDaq
namespace Experiments

open Async

variable {δ κ : Type}

structure ReservationStands (p : Pool (World δ κ) Wait Answer Failure) : Prop where
  active : ∀ id, p.state.durableMutationId = some id → p.state.activeExperimentId = some id
  frozen : ∀ id, p.state.durableMutationId = some id →
    p.state.reservedView.map (View.advanced id p.state.ownPhases) =
      some (p.state.disk.view p.state.memory)
  single : p.state.holders.length ≤ 1
  inside : ∀ t b id k, (t, .await b (.held id) k) ∈ p.tasks →
    p.state.holders = [t] ∧ p.state.durableMutationId = some id ∧
      p.state.reservedView = some (p.state.disk.view p.state.memory)

variable {S : Setting δ κ} [DecidableEq δ]

theorem Inv.single {w : World δ κ} (h : Inv S w) : w.holders.length ≤ 1 := by
  rcases h.held with ⟨_, hholders⟩ | ⟨id, t, _, hholders⟩
  · rw [hholders]
    exact Nat.zero_le 1
  · rw [hholders]
    exact Nat.le_refl 1

theorem inside_of_sound {p : Pool (World δ κ) Wait Answer Failure} (h : (discipline S).Sound p)
    {t : ℕ} {b : Bool} {id : String} {k : Wake Answer → Op δ κ Unit}
    (hin : (t, .await b (.held id) k) ∈ p.tasks) :
    p.state.holders = [t] ∧ p.state.claim = (some id, []) :=
  (h.promise t _ hin).1

/-- A reservation that was not made over a pending journal stands until it is
released. -/
theorem reservation_stands {w : World δ κ} (hw : Lives S w)
    {p : Pool (World δ κ) Wait Answer Failure} (hp : (manager S).Reachable w p)
    (hover : p.state.overlapped = false) : ReservationStands p := by
  have hsound := hw.sound hp
  have hinv : Inv S p.state := hsound.inv
  refine ⟨?_, ?_, hinv.single, ?_⟩
  · intro id hid
    exact (hinv.reserved id hover hid).2.2
  · intro id hid
    exact (hinv.reserved id hover hid).1
  · intro t b id k hin
    obtain ⟨hholders, hclaim⟩ := inside_of_sound hsound hin
    have hid : p.state.durableMutationId = some id := congrArg Prod.fst hclaim
    have hown : p.state.ownPhases = [] := congrArg Prod.snd hclaim
    have hview := (hinv.reserved id hover hid).1
    obtain ⟨v, hv, hsame⟩ := Option.map_eq_some_iff.mp hview
    rw [hown] at hsame
    exact ⟨hholders, hid, hv.trans (congrArg some hsame)⟩

/-- A holder inside its block, and another thread whose phase is refused. -/
def reserved : List (Move Answer (Call Unit) Empty) :=
  startExperiment ++ [.launch (.hold "0123456789ab")] ++ done 2 2 ++
    [.launch (.advancePhase "cooldown" "A. K." "0123456789ab" 7)] ++ done 3 2

theorem reservation_stands_reserved :
    ∃ p : Pool (World (List String) Unit) Wait Answer Failure,
      p.state.durableMutationId = some "0123456789ab" ∧
      (p.state.disk.readMetadata "0123456789ab").phases = [] ∧ ReservationStands p := by
  have hrun : ((manager bench).replay (Pool.initial World.empty) reserved).map
      (fun p => (p.state.durableMutationId, p.state.overlapped,
        (p.state.disk.readMetadata "0123456789ab").phases)) =
        some (some "0123456789ab", false, []) := by rfl
  obtain ⟨p, hp, hobserved⟩ := Option.map_eq_some_iff.mp hrun
  obtain ⟨hid, hrest⟩ := Prod.mk.inj hobserved
  obtain ⟨hover, hphases⟩ := Prod.mk.inj hrest
  exact ⟨p, hid, hphases, reservation_stands .empty
    ((manager bench).reachable_replay reserved .initial hp) hover⟩

/-- A finalization that failed after its journal, a holder, and another thread
that resolves the scope of a log entry. -/
def overtaken : List (Move Answer (Call Unit) Empty) :=
  startExperiment ++
    [.launch (.finalize { now := 9, archive := plainArchive, requestId := "2" })] ++
    done 2 4 ++ [failed 2] ++
    [.launch (.hold "0123456789ab")] ++ done 3 2 ++
    [.launch (.resolveScope none true)] ++ done 4 7

/-- The recovery of the other thread ends the experiment inside the block. -/
theorem reservation_overtaken :
    ¬ ∀ p, (manager bench).Reachable World.empty p → ReservationStands p := by
  intro h
  have hrun : ((manager bench).replay (Pool.initial World.empty) overtaken).map
      (fun p => (p.state.durableMutationId, p.state.activeExperimentId)) =
        some (some "0123456789ab", none) := by rfl
  obtain ⟨p, hp, hobserved⟩ := Option.map_eq_some_iff.mp hrun
  obtain ⟨hid, hnone⟩ := Prod.mk.inj hobserved
  have hactive := (h p ((manager bench).reachable_replay overtaken .initial hp)).active _ hid
  rw [hnone] at hactive
  cases hactive

end Experiments
end CryoDaq
