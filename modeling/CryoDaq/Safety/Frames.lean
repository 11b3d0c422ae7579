import CryoDaq.Safety.Journal

/-!
# What a synchronous function leaves alone

Most synchronous functions change one part of the state.  The lemmas here say
which parts stay as they are; they are simp lemmas, so that a statement about
one part of the state passes through the functions that do not touch it.
-/

namespace CryoDaq
namespace Safety
namespace State

variable (s : State)

section Parts

variable (f : Control → Control) (g : Lifecycle → Lifecycle) (n : Note)

@[simp] theorem onControl_control : (s.onControl f).control = f s.control := rfl
@[simp] theorem onControl_lifecycle :
    (s.onControl f).lifecycle = s.lifecycle := rfl
@[simp] theorem onControl_wiring : (s.onControl f).wiring = s.wiring := rfl
@[simp] theorem onControl_env : (s.onControl f).env = s.env := rfl

@[simp] theorem onLifecycle_control : (s.onLifecycle g).control = s.control := rfl
@[simp] theorem onLifecycle_lifecycle :
    (s.onLifecycle g).lifecycle = g s.lifecycle := rfl
@[simp] theorem onLifecycle_wiring : (s.onLifecycle g).wiring = s.wiring := rfl
@[simp] theorem onLifecycle_env : (s.onLifecycle g).env = s.env := rfl

@[simp] theorem note_control : (s.note n).control = s.control.note n := rfl
@[simp] theorem note_lifecycle : (s.note n).lifecycle = s.lifecycle := rfl
@[simp] theorem note_wiring : (s.note n).wiring = s.wiring := rfl
@[simp] theorem note_env : (s.note n).env = s.env := rfl

end Parts

section Link

variable (e : SourceOffEvidence) (b : Bool)

@[simp] theorem setOffEvidence_control :
    (s.setOffEvidence e).control = s.control := rfl
@[simp] theorem setOffEvidence_lifecycle :
    (s.setOffEvidence e).lifecycle = s.lifecycle := rfl
@[simp] theorem setOffEvidence_wiring :
    (s.setOffEvidence e).wiring = s.wiring := rfl
@[simp] theorem setOffEvidence_env : (s.setOffEvidence e).env = s.env := rfl

@[simp] theorem setConnected_control :
    (s.setConnected b).control = s.control := rfl
@[simp] theorem setConnected_lifecycle :
    (s.setConnected b).lifecycle = s.lifecycle := rfl
@[simp] theorem setConnected_wiring :
    (s.setConnected b).wiring = s.wiring := rfl
@[simp] theorem setConnected_env : (s.setConnected b).env = s.env := rfl

@[simp] theorem retainConnection_control :
    s.retainConnection.control = s.control := rfl
@[simp] theorem retainConnection_lifecycle :
    s.retainConnection.lifecycle = s.lifecycle := rfl
@[simp] theorem retainConnection_wiring :
    s.retainConnection.wiring = s.wiring := rfl
@[simp] theorem retainConnection_env : s.retainConnection.env = s.env := rfl

@[simp] theorem revokeReviewedSource_control :
    s.revokeReviewedSource.control = s.control := rfl
@[simp] theorem revokeReviewedSource_lifecycle :
    s.revokeReviewedSource.lifecycle = s.lifecycle := rfl
@[simp] theorem revokeReviewedSource_wiring :
    s.revokeReviewedSource.wiring = s.wiring := rfl
@[simp] theorem revokeReviewedSource_env :
    s.revokeReviewedSource.env = s.env := rfl

@[simp] theorem expireStaleOffEvidence_control :
    s.expireStaleOffEvidence.control = s.control := by
  unfold expireStaleOffEvidence
  split_ifs <;> rfl
@[simp] theorem expireStaleOffEvidence_lifecycle :
    s.expireStaleOffEvidence.lifecycle = s.lifecycle := by
  unfold expireStaleOffEvidence
  split_ifs <;> rfl
@[simp] theorem expireStaleOffEvidence_wiring :
    s.expireStaleOffEvidence.wiring = s.wiring := by
  unfold expireStaleOffEvidence
  split_ifs <;> rfl
@[simp] theorem expireStaleOffEvidence_env :
    s.expireStaleOffEvidence.env = s.env := by
  unfold expireStaleOffEvidence
  split_ifs <;> rfl

theorem refreshEvidence_parts :
    s.refreshEvidence.control = s.control ∧
      s.refreshEvidence.lifecycle = s.lifecycle ∧
      s.refreshEvidence.wiring = s.wiring ∧ s.refreshEvidence.env = s.env := by
  unfold refreshEvidence
  split_ifs <;> simp

theorem replaceSnapshot_parts (snapshot : OperatorSafetySnapshot) :
    (s.replaceSnapshot snapshot).1.control = s.control ∧
      (s.replaceSnapshot snapshot).1.lifecycle = s.lifecycle ∧
      (s.replaceSnapshot snapshot).1.wiring = s.wiring ∧
      (s.replaceSnapshot snapshot).1.env = s.env := by
  unfold replaceSnapshot
  split <;> exact ⟨rfl, rfl, rfl, rfl⟩

theorem refresh_parts :
    s.refreshOperatorSafetySnapshot.1.control = s.control ∧
      s.refreshOperatorSafetySnapshot.1.lifecycle = s.lifecycle ∧
      s.refreshOperatorSafetySnapshot.1.wiring = s.wiring ∧
      s.refreshOperatorSafetySnapshot.1.env = s.env := by
  have h := s.refreshEvidence_parts
  unfold refreshOperatorSafetySnapshot
  dsimp only
  split
  · exact h
  · split <;>
      simp only [replaceSnapshot_parts, setOffEvidence_control,
        setOffEvidence_lifecycle, setOffEvidence_wiring, setOffEvidence_env, h,
        and_self]

@[simp] theorem refresh_control :
    s.refreshOperatorSafetySnapshot.1.control = s.control :=
  s.refresh_parts.1
@[simp] theorem refresh_lifecycle :
    s.refreshOperatorSafetySnapshot.1.lifecycle = s.lifecycle :=
  s.refresh_parts.2.1
@[simp] theorem refresh_wiring :
    s.refreshOperatorSafetySnapshot.1.wiring = s.wiring :=
  s.refresh_parts.2.2.1
@[simp] theorem refresh_env :
    s.refreshOperatorSafetySnapshot.1.env = s.env :=
  s.refresh_parts.2.2.2

end Link

section Transitions

variable (after : SafetyState) (reason : TransitionReason) (text : String)
  (source : FaultSource) (keep : Finset SmuChannel) (site : GiveUpSite)

@[simp] theorem transition_control :
    (s.transition after reason).1.control = s.control.transition after reason := by
  simp [transition]
@[simp] theorem transition_lifecycle :
    (s.transition after reason).1.lifecycle = s.lifecycle := by
  simp [transition]
@[simp] theorem transition_wiring :
    (s.transition after reason).1.wiring = s.wiring := by
  simp [transition]
@[simp] theorem transition_env : (s.transition after reason).1.env = s.env := by
  simp [transition]

@[simp] theorem beginFaultLatch_control :
    (s.beginFaultLatch text source).1.control =
      s.control.beginFaultLatch text source := by
  unfold beginFaultLatch
  split_ifs <;> simp
@[simp] theorem beginFaultLatch_lifecycle :
    (s.beginFaultLatch text source).1.lifecycle = s.lifecycle := by
  unfold beginFaultLatch
  split_ifs <;> simp
@[simp] theorem beginFaultLatch_wiring :
    (s.beginFaultLatch text source).1.wiring = s.wiring := by
  unfold beginFaultLatch
  split_ifs <;> simp
@[simp] theorem beginFaultLatch_env :
    (s.beginFaultLatch text source).1.env = s.env := by
  unfold beginFaultLatch
  split_ifs <;> simp

@[simp] theorem keepSources_control :
    (s.keepSources site keep).control = s.control.keepSources site keep := rfl
@[simp] theorem keepSources_lifecycle :
    (s.keepSources site keep).lifecycle = s.lifecycle := rfl
@[simp] theorem keepSources_wiring :
    (s.keepSources site keep).wiring = s.wiring := rfl
@[simp] theorem keepSources_env :
    (s.keepSources site keep).env = s.env := rfl

@[simp] theorem keepAndMove_control :
    (s.keepAndMove keep after reason).1.control =
      s.control.keepAndMove keep after reason := by
  simp [keepAndMove]
@[simp] theorem keepAndMove_lifecycle :
    (s.keepAndMove keep after reason).1.lifecycle = s.lifecycle := by
  simp [keepAndMove]
@[simp] theorem keepAndMove_wiring :
    (s.keepAndMove keep after reason).1.wiring = s.wiring := by
  simp [keepAndMove]
@[simp] theorem keepAndMove_env :
    (s.keepAndMove keep after reason).1.env = s.env := by
  simp [keepAndMove]

end Transitions

end State

end Safety
end CryoDaq
