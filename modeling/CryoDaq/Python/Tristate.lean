import Mathlib.Data.Bool.Basic
import Mathlib.Data.List.Forall2

/-!
# True, False or unknown

A test whose inputs may be missing answers `True`, `False` or `None`.  `None`
says less than the two others.

**Connectives.**  `decidedBy d` is a strong connective: one part that is `d`
decides the whole, and otherwise an unknown part leaves it unknown.  It is a
conjunction for `d = false` and a disjunction for `d = true`.  It is monotone:
learning more never changes an answer that was given.
-/

namespace CryoDaq

/-- `b` answers whatever `a` answers. -/
def Refines {α : Type} (a b : Option α) : Prop := ∀ v, a = some v → b = some v

/-- One part that is `d` decides; only parts that are all the opposite decide
the other way. -/
def decidedBy (d : Bool) (results : List (Option Bool)) : Option Bool :=
  if results.any (· == some d) then some d
  else if results.all (· == some (!d)) then some (!d)
  else none

variable {a b : List (Option Bool)} {d : Bool}

private theorem any_decided : (a.any (· == some d)) = true ↔ some d ∈ a := by
  constructor
  · intro h
    obtain ⟨x, hx, heq⟩ := List.any_eq_true.mp h
    exact eq_of_beq heq ▸ hx
  · exact fun h => List.any_eq_true.mpr ⟨_, h, beq_self_eq_true _⟩

private theorem all_decided : (a.all (· == some d)) = true ↔ ∀ x ∈ a, x = some d := by
  constructor
  · exact fun h x hx => eq_of_beq (List.all_eq_true.mp h x hx)
  · exact fun h => List.all_eq_true.mpr fun x hx => by rw [h x hx]; exact beq_self_eq_true _

theorem decidedBy_eq_self : decidedBy d a = some d ↔ some d ∈ a := by
  unfold decidedBy
  by_cases h : some d ∈ a
  · rw [if_pos (any_decided.mpr h)]
    exact ⟨fun _ => h, fun _ => rfl⟩
  · rw [if_neg fun hany => h (any_decided.mp hany)]
    refine ⟨?_, fun hmem => absurd hmem h⟩
    split
    · intro heq
      exact absurd (Option.some.inj heq) (Bool.not_ne_self d)
    · intro heq
      cases heq

theorem decidedBy_eq_not : decidedBy d a = some (!d) ↔ ∀ x ∈ a, x = some (!d) := by
  unfold decidedBy
  by_cases h : ∀ x ∈ a, x = some (!d)
  · have hany : ¬ (a.any (· == some d)) = true := fun hany =>
      Bool.not_ne_self d (Option.some.inj (h _ (any_decided.mp hany))).symm
    rw [if_neg hany, if_pos (all_decided.mpr h)]
    exact ⟨fun _ => h, fun _ => rfl⟩
  · rw [if_neg fun hall => h (all_decided.mp hall)]
    refine ⟨?_, fun hmem => absurd hmem h⟩
    split
    · intro heq
      exact absurd (Option.some.inj heq).symm (Bool.not_ne_self d)
    · intro heq
      cases heq

theorem mem_refined {v : Bool} (h : List.Forall₂ Refines a b) (hv : some v ∈ a) :
    some v ∈ b := by
  induction h with
  | nil => exact absurd hv List.not_mem_nil
  | cons hxy _ ih =>
      rcases List.mem_cons.mp hv with heq | hmem
      · exact List.mem_cons.mpr (.inl (hxy v heq.symm).symm)
      · exact List.mem_cons.mpr (.inr (ih hmem))

theorem forall_refined {v : Bool} (h : List.Forall₂ Refines a b)
    (hv : ∀ x ∈ a, x = some v) : ∀ x ∈ b, x = some v := by
  induction h with
  | nil => exact fun x hx => absurd hx List.not_mem_nil
  | cons hxy _ ih =>
      intro x hx
      rcases List.mem_cons.mp hx with heq | hmem
      · rw [heq]
        exact hxy v (hv _ List.mem_cons_self)
      · exact ih (fun y hy => hv y (List.mem_cons_of_mem _ hy)) x hmem

theorem decidedBy_refines (d : Bool) (h : List.Forall₂ Refines a b) :
    Refines (decidedBy d a) (decidedBy d b) := by
  intro v hv
  by_cases hd : v = d
  · subst hd
    exact decidedBy_eq_self.mpr (mem_refined h (decidedBy_eq_self.mp hv))
  · have hd : v = !d := Bool.eq_not_of_ne hd
    subst hd
    exact decidedBy_eq_not.mpr (forall_refined h (decidedBy_eq_not.mp hv))

end CryoDaq
