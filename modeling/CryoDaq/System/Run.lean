import Mathlib.Logic.Relation

/-!
# Runs of a step relation

A run is a chain of steps.  What every step keeps, from states that satisfy an
invariant, is what a run keeps; a reflexive and transitive relation that holds
across each step holds between the two ends of a run.
-/

namespace CryoDaq

open Relation

variable {σ τ : Type}

def Run (step : σ → σ → Prop) : σ → σ → Prop := ReflTransGen step

namespace Run

variable {step : σ → σ → Prop} {s t u : σ}

theorem refl (s : σ) : Run step s s := ReflTransGen.refl

theorem single (h : step s t) : Run step s t := ReflTransGen.single h

theorem tail (h : Run step s t) (ht : step t u) : Run step s u :=
  ReflTransGen.tail h ht

theorem trans (h : Run step s t) (h' : Run step t u) : Run step s u :=
  ReflTransGen.trans h h'

theorem invariant {I : σ → Prop} (h : Run step s t)
    (keep : ∀ {s t}, I s → step s t → I t) (hs : I s) : I t := by
  induction h with
  | refl =>
      exact hs
  | tail _ ht ih =>
      exact keep ih ht

theorem across {I : σ → Prop} {R : σ → σ → Prop} (h : Run step s t)
    (keep : ∀ {s t}, I s → step s t → I t)
    (refl : ∀ s, R s s) (trans : ∀ {s t u}, R s t → R t u → R s u)
    (one : ∀ {s t}, I s → step s t → R s t) (hs : I s) : R s t := by
  induction h with
  | refl =>
      exact refl _
  | tail hrun ht ih =>
      exact trans ih (one (invariant hrun keep hs) ht)

theorem simulate {upper : τ → τ → Prop} {I : σ → Prop} (h : Run step s t)
    (view : σ → τ) (keep : ∀ {s t}, I s → step s t → I t)
    (one : ∀ {s t}, I s → step s t → Run upper (view s) (view t))
    (hs : I s) : Run upper (view s) (view t) := by
  induction h with
  | refl =>
      exact ReflTransGen.refl
  | tail hrun ht ih =>
      exact ih.trans (one (invariant hrun keep hs) ht)

end Run

end CryoDaq
