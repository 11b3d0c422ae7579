import Mathlib.Data.Finset.Basic
import Mathlib.Data.List.Basic

/-!
# Evidence gathered in epochs

A run is cut into rounds, and each round names some parties.  An epoch is a
stretch of quiet rounds that names every party at least once.

**Epochs.**  `Epochs n history` says that the history ends in at least `n`
epochs, one after the other and without a common round, then perhaps in a few
quiet rounds more.  Everything from the first of these epochs on is quiet, so
they all lie after the last round that was not.

**Gathered.**  A program does not keep the stretches.  It keeps the parties seen
since the last epoch and the number of epochs; `Gathered` says what history the
two values stand for, and each way of changing them is one lemma.
-/

namespace CryoDaq

variable {ρ ι : Type}

section

variable (quiet : ρ → Prop) (names : ρ → Finset ι) (all : Finset ι)

/-- A stretch of quiet rounds that names every party. -/
structure IsEpoch (segment : List ρ) : Prop where
  quiet_rounds : ∀ r ∈ segment, quiet r
  names_all : ∀ i ∈ all, ∃ r ∈ segment, i ∈ names r

/-- The history ends in at least `n` disjoint epochs and quiet rounds after them. -/
def Epochs (n : ℕ) (history : List ρ) : Prop :=
  ∃ (older : List ρ) (segments : List (List ρ)) (current : List ρ),
    history = older ++ segments.flatten ++ current ∧ n ≤ segments.length ∧
    (∀ segment ∈ segments, IsEpoch quiet names all segment) ∧ ∀ r ∈ current, quiet r

/-- What the parties seen and the epochs counted say about the history. -/
def Gathered (seen : Finset ι) (completed : ℕ) (history : List ρ) : Prop :=
  ∃ (older : List ρ) (segments : List (List ρ)) (current : List ρ),
    history = older ++ segments.flatten ++ current ∧ segments.length = completed ∧
    (∀ segment ∈ segments, IsEpoch quiet names all segment) ∧ (∀ r ∈ current, quiet r) ∧
    ∀ i ∈ seen, ∃ r ∈ current, i ∈ names r

end

variable {quiet : ρ → Prop} {names : ρ → Finset ι} {all : Finset ι}

theorem gathered_nothing (history : List ρ) :
    Gathered quiet names all ∅ 0 history := by
  refine ⟨history, [], [], by simp, rfl, fun _ h => ?_, fun _ h => ?_, fun _ h => ?_⟩
  · exact absurd h List.not_mem_nil
  · exact absurd h List.not_mem_nil
  · exact absurd h (Finset.notMem_empty _)

namespace Gathered

variable {seen : Finset ι} {completed : ℕ} {history : List ρ}

theorem add [DecidableEq ι] {r : ρ} {found : Finset ι}
    (h : Gathered quiet names all seen completed history) (hquiet : quiet r)
    (hfound : found ⊆ names r) :
    Gathered quiet names all (seen ∪ found) completed (history ++ [r]) := by
  obtain ⟨older, segments, current, rfl, hlength, hepochs, hcurrent, hseen⟩ := h
  refine ⟨older, segments, current ++ [r], by simp, hlength, hepochs, ?_, ?_⟩
  · intro x hx
    rcases List.mem_append.mp hx with hold | hnew
    · exact hcurrent x hold
    · rw [List.mem_singleton.mp hnew]
      exact hquiet
  · intro i hi
    rcases Finset.mem_union.mp hi with hold | hnew
    · obtain ⟨x, hx, hnames⟩ := hseen i hold
      exact ⟨x, List.mem_append_left _ hx, hnames⟩
    · exact ⟨r, List.mem_append_right _ (List.mem_singleton.mpr rfl), hfound hnew⟩

theorem close (h : Gathered quiet names all all completed history) :
    Gathered quiet names all ∅ (completed + 1) history := by
  obtain ⟨older, segments, current, rfl, hlength, hepochs, hcurrent, hseen⟩ := h
  refine ⟨older, segments ++ [current], [], by simp, by simp [hlength], ?_, ?_, ?_⟩
  · intro segment hsegment
    rcases List.mem_append.mp hsegment with hold | hnew
    · exact hepochs segment hold
    · rw [List.mem_singleton.mp hnew]
      exact ⟨hcurrent, hseen⟩
  · exact fun _ hr => absurd hr List.not_mem_nil
  · exact fun _ hi => absurd hi (Finset.notMem_empty _)

theorem epochs {n : ℕ} (h : Gathered quiet names all seen completed history)
    (hn : n ≤ completed) : Epochs quiet names all n history := by
  obtain ⟨older, segments, current, heq, hlength, hepochs, hcurrent, _⟩ := h
  exact ⟨older, segments, current, heq, hlength ▸ hn, hepochs, hcurrent⟩

end Gathered

end CryoDaq
