import CryoDaq.Acquisition.Reading

/-!
# Required publications

A required publication is an envelope that its caller may withdraw until the publisher claims it.
Its settlement is a future: `none` while it is pending.

**Waiting.**  The caller waits on a shield of the settlement.  A cancellation reaches it while it
waits, also when the settlement is already there; what it hears then is `conclude`.
-/

namespace CryoDaq
namespace Broker

open Acquisition (Reading)

inductive RequiredPublicationState
  | unclaimed
  | claimed
  | acknowledged
  | rejected
  | withdrawn
deriving DecidableEq

/-- What settles the future: its result, or the exception that is set. -/
inductive Settlement
  | result
  | notSettled
  | expired
  | callerCancelled
deriving DecidableEq

/-- The text of the exception. -/
def Settlement.message : Settlement → Option String
  | .result => none
  | .notSettled => some "required publisher did not settle the event"
  | .expired => some "required publisher settlement timed out before claim"
  | .callerCancelled => some ""

structure RequiredPublication where
  reading : Reading
  requestId : String
  requestFingerprint : String
  settlement : Option Settlement := none
  state : RequiredPublicationState := .unclaimed

/-- The envelope is settled. -/
def RequiredPublicationState.terminal : RequiredPublicationState → Bool
  | .unclaimed => false
  | .claimed => false
  | _ => true

namespace RequiredPublication

def claim (e : RequiredPublication) : Except String RequiredPublication :=
  if e.state ≠ .unclaimed then .error "required publication is no longer claimable"
  else .ok { e with state := .claimed }

/-- `_settlement.set_result`, `_settlement.set_exception` -/
def settle (e : RequiredPublication) (s : Settlement) (state : RequiredPublicationState) :
    Except String RequiredPublication :=
  if e.settlement.isSome then
    .error "required publication settlement is no longer pending"
  else .ok { e with settlement := some s, state }

def acknowledge (e : RequiredPublication) : Except String RequiredPublication :=
  match e.state with
  | .unclaimed => .error "required publication must be claimed before acknowledgement"
  | .claimed => e.settle .result .acknowledged
  | .acknowledged => .ok e
  | _ => .error "required publication is no longer acknowledgeable"

def reject (e : RequiredPublication) : Except String RequiredPublication :=
  match e.state with
  | .unclaimed => e.settle .notSettled .rejected
  | .claimed => e.settle .notSettled .rejected
  | .rejected => .ok e
  | .withdrawn => .ok e
  | .acknowledged => .error "acknowledged required publication cannot be rejected"

def withdrawIfUnclaimed (e : RequiredPublication) (failure : Settlement) :
    Except String RequiredPublication :=
  if e.state ≠ .unclaimed then .ok e else e.settle failure .withdrawn

end RequiredPublication

/-- How `publish_required` ends. -/
inductive Outcome
  | receipt
  | raised (message : Option String)
  | cancelled
deriving DecidableEq

/-- The end of `_await_required_publication` once the settlement is done. -/
def conclude (cancellation : Bool) : Settlement → Outcome
  | .result => if cancellation then .cancelled else .receipt
  | .callerCancelled =>
      if cancellation then .cancelled
      else .raised (some "required publication withdrawal lost caller cancellation")
  | s => .raised s.message

/-- The timer of `call_later`. -/
inductive Timer
  | armed
  | fired
  | cancelled
deriving DecidableEq

/-- A call of `publish_required` that has queued its envelope. -/
structure Publication where
  envelope : RequiredPublication
  timer : Timer := .armed
  cancellation : Bool := false
  outcome : Option Outcome := none

namespace Publication

def queued (reading : Reading) (requestId requestFingerprint : String) : Publication where
  envelope := { reading, requestId, requestFingerprint }

def finish (p : Publication) (o : Outcome) : Publication :=
  { p with outcome := some o, timer := if p.timer = .armed then .cancelled else p.timer }

/-- The publisher calls a method of the envelope; when it raises nothing changes. -/
def apply (method : RequiredPublication → Except String RequiredPublication) (p : Publication) :
    Publication :=
  match method p.envelope with
  | .ok envelope => { p with envelope }
  | .error _ => p

def expire (p : Publication) : Publication :=
  if p.timer = .armed then
    match p.envelope.withdrawIfUnclaimed .expired with
    | .ok envelope => { p with envelope, timer := .fired }
    | .error _ => { p with timer := .fired }
  else p

/-- A cancellation reaches the waiting caller. -/
def cancel (p : Publication) : Publication :=
  if p.outcome.isSome then p
  else
    match p.envelope.withdrawIfUnclaimed .callerCancelled with
    | .error message => { p with cancellation := true }.finish (.raised (some message))
    | .ok envelope =>
        let p := { p with envelope, cancellation := true }
        match envelope.settlement with
        | none => p
        | some s => p.finish (conclude true s)

/-- The shield wakes the waiting caller; what it raises ends the call at once. -/
def resume (p : Publication) : Publication :=
  if p.outcome.isSome then p
  else
    match p.envelope.settlement with
    | none => p
    | some .result => p.finish (conclude p.cancellation .result)
    | some s => p.finish (.raised s.message)

end Publication

/-! ## What a method does -/

def Settlement.state : Settlement → RequiredPublicationState
  | .result => .acknowledged
  | .notSettled => .rejected
  | .expired => .withdrawn
  | .callerCancelled => .withdrawn

inductive Settles : RequiredPublicationState → Settlement → Prop
  | acknowledged : Settles .claimed .result
  | rejected : Settles .claimed .notSettled
  | rejectedUnclaimed : Settles .unclaimed .notSettled
  | expired : Settles .unclaimed .expired
  | callerCancelled : Settles .unclaimed .callerCancelled

namespace RequiredPublication

/-- The future and the state of an envelope agree. -/
inductive Agrees (e : RequiredPublication) : Prop
  | unclaimed (hstate : e.state = .unclaimed) (hsettlement : e.settlement = none)
  | claimed (hstate : e.state = .claimed) (hsettlement : e.settlement = none)
  | settled (s : Settlement) (hstate : e.state = s.state) (hsettlement : e.settlement = some s)

/-- What happens to an envelope in one step. -/
inductive Moves (e : RequiredPublication) : RequiredPublication → Prop
  | stays : Moves e e
  | claimed (hstate : e.state = .unclaimed) : Moves e { e with state := .claimed }
  | settles (s : Settlement) (hstate : Settles e.state s) :
      Moves e { e with settlement := some s, state := s.state }

variable {e f : RequiredPublication}

theorem Agrees.pending (h : e.Agrees) : e.settlement = none ↔
    e.state = .unclaimed ∨ e.state = .claimed := by
  cases h with
  | unclaimed hstate hsettlement => simp [hstate, hsettlement]
  | claimed hstate hsettlement => simp [hstate, hsettlement]
  | settled s hstate hsettlement =>
      cases s with
      | result => simp [hstate, hsettlement, Settlement.state]
      | notSettled => simp [hstate, hsettlement, Settlement.state]
      | expired => simp [hstate, hsettlement, Settlement.state]
      | callerCancelled => simp [hstate, hsettlement, Settlement.state]

theorem Moves.agrees (h : e.Moves f) (hagrees : e.Agrees) : f.Agrees := by
  cases h with
  | stays => exact hagrees
  | claimed hstate =>
      cases hagrees with
      | unclaimed _ hsettlement => exact .claimed rfl hsettlement
      | claimed hclaimed _ =>
          rw [hstate] at hclaimed
          cases hclaimed
      | settled s hsettled hsettlement =>
          have hpending := (Agrees.settled s hsettled hsettlement).pending.mpr (.inl hstate)
          rw [hsettlement] at hpending
          cases hpending
  | settles s _ => exact .settled s rfl rfl

theorem Agrees.terminal (h : e.Agrees) : e.state.terminal = e.settlement.isSome := by
  cases h with
  | unclaimed hstate hsettlement =>
      rw [hstate, hsettlement]
      rfl
  | claimed hstate hsettlement =>
      rw [hstate, hsettlement]
      rfl
  | settled s hstate hsettlement =>
      rw [hstate, hsettlement]
      cases s with
      | result => rfl
      | notSettled => rfl
      | expired => rfl
      | callerCancelled => rfl

theorem pending_of_settles {state : RequiredPublicationState} {s : Settlement}
    (h : Settles state s) : state = .unclaimed ∨ state = .claimed := by
  cases h with
  | acknowledged => exact .inr rfl
  | rejected => exact .inr rfl
  | rejectedUnclaimed => exact .inl rfl
  | expired => exact .inl rfl
  | callerCancelled => exact .inl rfl

theorem Moves.eq_of_settled (h : e.Moves f) (hagrees : e.Agrees) (hs : e.settlement.isSome) :
    f = e := by
  have hne : ¬ (e.state = .unclaimed ∨ e.state = .claimed) := by
    intro hpending
    rw [hagrees.pending.mpr hpending] at hs
    cases hs
  cases h with
  | stays => rfl
  | claimed hstate => exact absurd (.inl hstate) hne
  | settles s hsettles => exact absurd (pending_of_settles hsettles) hne

theorem claim_moves (h : e.claim = .ok f) :
    e.state = .unclaimed ∧ f = { e with state := .claimed } := by
  rw [claim] at h
  split at h
  case isTrue => cases h
  case isFalse hstate =>
    cases h
    exact ⟨not_not.mp hstate, rfl⟩

theorem settle_eq {s : Settlement} {state : RequiredPublicationState}
    (h : e.settle s state = .ok f) : f = { e with settlement := some s, state } := by
  rw [settle] at h
  split at h
  case isTrue => cases h
  case isFalse =>
    cases h
    rfl

theorem acknowledge_moves (h : e.acknowledge = .ok f) : e.Moves f := by
  rw [acknowledge] at h
  split at h
  case h_1 => cases h
  case h_2 hstate =>
    rw [settle_eq h]
    exact .settles .result (hstate ▸ .acknowledged)
  case h_3 =>
    cases h
    exact .stays
  case h_4 => cases h

theorem reject_moves (h : e.reject = .ok f) : e.Moves f := by
  rw [reject] at h
  split at h
  case h_1 hstate =>
    rw [settle_eq h]
    exact .settles .notSettled (hstate ▸ .rejectedUnclaimed)
  case h_2 hstate =>
    rw [settle_eq h]
    exact .settles .notSettled (hstate ▸ .rejected)
  case h_3 =>
    cases h
    exact .stays
  case h_4 =>
    cases h
    exact .stays
  case h_5 => cases h

theorem withdrawIfUnclaimed_eq (h : e.Agrees) (failure : Settlement) :
    e.withdrawIfUnclaimed failure =
      .ok (if e.state = .unclaimed then { e with settlement := some failure, state := .withdrawn }
        else e) := by
  by_cases hstate : e.state = .unclaimed
  · have hpending : e.settlement = none := h.pending.mpr (.inl hstate)
    rw [withdrawIfUnclaimed, if_neg (not_not.mpr hstate), settle, hpending, if_pos hstate]
    rfl
  · rw [withdrawIfUnclaimed, if_pos hstate, if_neg hstate]

end RequiredPublication

inductive Ends : Settlement → Outcome → Prop
  | receipt : Ends .result .receipt
  | cancelled : Ends .result .cancelled
  | callerCancelled : Ends .callerCancelled .cancelled
  | notSettled : Ends .notSettled (.raised Settlement.notSettled.message)
  | expired : Ends .expired (.raised Settlement.expired.message)

namespace Publication

structure Sound (p : Publication) : Prop where
  agrees : p.envelope.Agrees
  unclaimed : p.envelope.state = .unclaimed → p.timer = .armed
  ended : ∀ o, p.outcome = some o → ∃ s, p.envelope.settlement = some s ∧ Ends s o
  withdrawn : p.envelope.settlement = some .callerCancelled → p.outcome = some .cancelled

structure Follows (p q : Publication) : Prop where
  moves : p.envelope.Moves q.envelope
  outcome : ∀ o, p.outcome = some o → q.outcome = some o

variable {p : Publication}

theorem sound_queued (reading : Acquisition.Reading) (requestId requestFingerprint : String) :
    (queued reading requestId requestFingerprint).Sound where
  agrees := .unclaimed rfl rfl
  unclaimed _ := rfl
  ended _ h := by cases h
  withdrawn h := by cases h

theorem Sound.eq_of_ended (h : p.Sound) {e : RequiredPublication} (hmoves : p.envelope.Moves e)
    {o : Outcome} (ho : p.outcome = some o) : e = p.envelope := by
  obtain ⟨s, hs, _⟩ := h.ended o ho
  exact hmoves.eq_of_settled h.agrees (hs ▸ rfl)

theorem Sound.publisher (h : p.Sound) {e : RequiredPublication} (hmoves : p.envelope.Moves e)
    (hcaller : e.settlement = some .callerCancelled →
      p.envelope.settlement = some .callerCancelled) :
    { p with envelope := e }.Sound ∧ p.Follows { p with envelope := e } := by
  refine ⟨⟨hmoves.agrees h.agrees, fun hstate => ?_, fun o ho => ?_, fun hs => ?_⟩, hmoves,
    fun o ho => ho⟩
  · cases hmoves with
    | stays => exact h.unclaimed hstate
    | claimed _ => cases hstate
    | settles s _ =>
        cases s with
        | result => cases hstate
        | notSettled => cases hstate
        | expired => cases hstate
        | callerCancelled => cases hstate
  · have heq := h.eq_of_ended hmoves ho
    exact heq ▸ h.ended o ho
  · exact h.withdrawn (hcaller hs)

structure Method (method : RequiredPublication → Except String RequiredPublication) : Prop where
  moves : ∀ {before after}, method before = .ok after → before.Moves after
  caller : ∀ {before after}, method before = .ok after →
    after.settlement = some .callerCancelled → before.settlement = some .callerCancelled

theorem method_claim : Method RequiredPublication.claim where
  moves h := by
    obtain ⟨hstate, rfl⟩ := RequiredPublication.claim_moves h
    exact .claimed hstate
  caller h hs := by
    obtain ⟨_, rfl⟩ := RequiredPublication.claim_moves h
    exact hs

theorem method_acknowledge : Method RequiredPublication.acknowledge where
  moves := RequiredPublication.acknowledge_moves
  caller h hs := by
    rw [RequiredPublication.acknowledge] at h
    split at h
    case h_1 => cases h
    case h_2 =>
      rw [RequiredPublication.settle_eq h] at hs
      cases hs
    case h_3 =>
      cases h
      exact hs
    case h_4 => cases h

theorem method_reject : Method RequiredPublication.reject where
  moves := RequiredPublication.reject_moves
  caller h hs := by
    rw [RequiredPublication.reject] at h
    split at h
    case h_1 =>
      rw [RequiredPublication.settle_eq h] at hs
      cases hs
    case h_2 =>
      rw [RequiredPublication.settle_eq h] at hs
      cases hs
    case h_3 =>
      cases h
      exact hs
    case h_4 =>
      cases h
      exact hs
    case h_5 => cases h

theorem Sound.apply {method : RequiredPublication → Except String RequiredPublication}
    (h : p.Sound) (hmethod : Method method) :
    (p.apply method).Sound ∧ p.Follows (p.apply method) := by
  rw [Publication.apply]
  split
  case h_1 hok => exact h.publisher (hmethod.moves hok) (hmethod.caller hok)
  case h_2 => exact ⟨h, .stays, fun _ ho => ho⟩

theorem Sound.expire (h : p.Sound) : p.expire.Sound ∧ p.Follows p.expire := by
  rw [Publication.expire]
  split
  case isFalse => exact ⟨h, .stays, fun _ ho => ho⟩
  case isTrue harmed =>
    rw [RequiredPublication.withdrawIfUnclaimed_eq h.agrees]
    by_cases hstate : p.envelope.state = .unclaimed
    · have hpending := h.agrees.pending.mpr (.inl hstate)
      have hnone (o : Outcome) (ho : p.outcome = some o) : False := by
        obtain ⟨s, hs, _⟩ := h.ended o ho
        rw [hpending] at hs
        cases hs
      simp only [if_pos hstate]
      refine ⟨⟨.settled .expired rfl rfl, fun h => ?_, fun o ho => (hnone o ho).elim, fun h => ?_⟩,
        .settles .expired (hstate ▸ .expired), fun o ho => (hnone o ho).elim⟩
      · cases h
      · cases h
    · simp only [if_neg hstate]
      exact ⟨⟨h.agrees, fun hu => absurd hu hstate, h.ended, h.withdrawn⟩, .stays, fun _ ho => ho⟩

theorem Sound.finish {o : Outcome} {s : Settlement} (hagrees : p.envelope.Agrees)
    (hs : p.envelope.settlement = some s) (hends : Ends s o) : (p.finish o).Sound where
  agrees := hagrees
  unclaimed hstate := by
    rw [hagrees.pending.mpr (.inl hstate)] at hs
    cases hs
  ended o' ho := by
    cases ho
    exact ⟨s, hs, hends⟩
  withdrawn hcaller := by
    have heq : s = .callerCancelled := Option.some.inj (hs.symm.trans hcaller)
    subst heq
    cases hends
    rfl

theorem ends_conclude (s : Settlement) : Ends s (conclude true s) := by
  cases s with
  | result => exact .cancelled
  | notSettled => exact .notSettled
  | expired => exact .expired
  | callerCancelled => exact .callerCancelled

theorem Sound.cancel (h : p.Sound) : p.cancel.Sound ∧ p.Follows p.cancel := by
  rw [Publication.cancel]
  split
  case isTrue => exact ⟨h, .stays, fun _ ho => ho⟩
  case isFalse hwaiting =>
    have hnone (o : Outcome) (ho : p.outcome = some o) : False := by
      rw [ho] at hwaiting
      exact hwaiting rfl
    rw [RequiredPublication.withdrawIfUnclaimed_eq h.agrees]
    by_cases hstate : p.envelope.state = .unclaimed
    · simp only [if_pos hstate]
      exact ⟨Sound.finish (.settled .callerCancelled rfl rfl) rfl (ends_conclude _),
        .settles .callerCancelled (hstate ▸ .callerCancelled), fun o ho => (hnone o ho).elim⟩
    · simp only [if_neg hstate]
      cases hsettlement : p.envelope.settlement with
      | none =>
          refine ⟨⟨h.agrees, fun hu => absurd hu hstate, h.ended, fun hs => ?_⟩, .stays,
            fun _ ho => ho⟩
          rw [hsettlement] at hs
          cases hs
      | some s =>
          exact ⟨Sound.finish h.agrees hsettlement (ends_conclude s), .stays,
            fun o ho => (hnone o ho).elim⟩

theorem Sound.resume (h : p.Sound) : p.resume.Sound ∧ p.Follows p.resume := by
  rw [Publication.resume]
  split
  case isTrue => exact ⟨h, .stays, fun _ ho => ho⟩
  case isFalse hwaiting =>
    have hnone (o : Outcome) (ho : p.outcome = some o) : False := by
      rw [ho] at hwaiting
      exact hwaiting rfl
    have hfollows (o : Outcome) : p.Follows (p.finish o) :=
      ⟨.stays, fun o ho => (hnone o ho).elim⟩
    cases hsettlement : p.envelope.settlement with
    | none => exact ⟨h, .stays, fun _ ho => ho⟩
    | some s =>
        cases s with
        | result =>
            refine ⟨Sound.finish h.agrees hsettlement ?_, hfollows _⟩
            cases p.cancellation with
            | false => exact .receipt
            | true => exact .cancelled
        | notSettled => exact ⟨Sound.finish h.agrees hsettlement .notSettled, hfollows _⟩
        | expired => exact ⟨Sound.finish h.agrees hsettlement .expired, hfollows _⟩
        | callerCancelled =>
            -- the caller that withdrew has heard of it at once
            exact (hnone _ (h.withdrawn hsettlement)).elim

/-- What later steps keep of a publication. -/
structure Kept (p q : Publication) : Prop where
  settled : p.envelope.state.terminal = true → q.envelope = p.envelope
  outcome : ∀ o, p.outcome = some o → q.outcome = some o
  begun : p.envelope.state ≠ .unclaimed → q.envelope.state ≠ .unclaimed

theorem Kept.refl (p : Publication) : p.Kept p := ⟨fun _ => rfl, fun _ h => h, fun h => h⟩

theorem Kept.trans {p q r : Publication} (h : p.Kept q) (h' : q.Kept r) : p.Kept r where
  settled hp := by
    have hq := h.settled hp
    exact (h'.settled (hq ▸ hp)).trans hq
  outcome o ho := h'.outcome o (h.outcome o ho)
  begun hp := h'.begun (h.begun hp)

theorem Follows.kept {q : Publication} (h : p.Follows q) (hp : p.Sound) : p.Kept q where
  settled hterminal := h.moves.eq_of_settled hp.agrees (hp.agrees.terminal ▸ hterminal)
  outcome := h.outcome
  begun hbegun := by
    have hmoves := h.moves
    generalize q.envelope = after at hmoves
    cases hmoves with
    | stays => exact hbegun
    | claimed hstate => exact absurd hstate hbegun
    | settles s _ =>
        cases s with
        | result => nofun
        | notSettled => nofun
        | expired => nofun
        | callerCancelled => nofun

end Publication

end Broker
end CryoDaq
