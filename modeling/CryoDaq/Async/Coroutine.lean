/-!
# Cooperative coroutines

A coroutine runs without interruption between two suspension points.  While it
runs it may read and replace a shared state; at a suspension point it names
what it waits for, and everything else may happen before it is resumed.

**Syntax.**  `Coro σ ω β ε α` is the tree of one coroutine over the shared
state `σ`: it returns an `α`, raises an `ε`, reads the state, replaces the
state, or suspends on a wait of type `ω`.  A resumption delivers a `Wake β`:
the awaited value, and whether the caller was cancelled while it waited.

**Cancellation.**  A plain suspension may be resumed early by a cancellation;
a shielded one is resumed only when its wait is over, and then reports whether
the caller was cancelled meanwhile.

**Atomic segments.**  `Coro.advance` runs a coroutine up to its next
suspension.  A suspended coroutine is one that `advance` leaves alone.

**Alone.**  `Coro.alone` runs a coroutine to its end while nothing else happens.

**Raising.**  `Coro.RaisesIn` says in which states alone a coroutine raises.

**Settling.**  `Coro.settle` runs a coroutine to its end on behalf of a
caller: the inner coroutine never sees the caller's cancellation, which is
reported beside the inner outcome instead.
-/

namespace CryoDaq
namespace Async

/-- What a resumption delivers at a suspension point. -/
structure Wake (β : Type) where
  value : β
  cancelled : Bool

/-- The same resumption without the caller's cancellation. -/
def Wake.calm {β : Type} (r : Wake β) : Wake β :=
  { r with cancelled := false }

inductive Coro (σ ω β ε α : Type) : Type where
  | ret (a : α)
  | raise (e : ε)
  | get (k : σ → Coro σ ω β ε α)
  | put (s : σ) (k : Coro σ ω β ε α)
  | await (shielded : Bool) (w : ω) (k : Wake β → Coro σ ω β ε α)

namespace Coro

variable {σ ω β ε α γ : Type}

/-- Sequential composition. -/
def bind : Coro σ ω β ε α → (α → Coro σ ω β ε γ) → Coro σ ω β ε γ
  | .ret a, f => f a
  | .raise e, _ => .raise e
  | .get k, f => .get fun s => bind (k s) f
  | .put s k, f => .put s (bind k f)
  | .await b w k, f => .await b w fun r => bind (k r) f

instance : Monad (Coro σ ω β ε) where
  pure := .ret
  bind := bind

def read : Coro σ ω β ε σ := .get .ret

/-- Replace the shared state by its image under `f`. -/
def update (f : σ → σ) : Coro σ ω β ε Unit :=
  .get fun s => .put (f s) (.ret ())

/-- Suspend on `w` and deliver the resumption as a value. -/
def suspend (w : ω) : Coro σ ω β ε (Wake β) := .await false w .ret

/-- Run a coroutine and deliver its exception as a value. -/
def attempt : Coro σ ω β ε α → Coro σ ω β ε (Except ε α)
  | .ret a => .ret (.ok a)
  | .raise e => .ret (.error e)
  | .get k => .get fun s => attempt (k s)
  | .put s k => .put s (attempt k)
  | .await b w k => .await b w fun r => attempt (k r)

/-- Run a coroutine to its end on behalf of a caller.  The coroutine never
sees the caller's cancellation; the second component reports it. -/
def settle : Bool → Coro σ ω β ε α → Coro σ ω β ε (Except ε α × Bool)
  | c, .ret a => .ret (.ok a, c)
  | c, .raise e => .ret (.error e, c)
  | c, .get k => .get fun s => settle c (k s)
  | c, .put s k => .put s (settle c k)
  | c, .await _ w k =>
      .await true w fun r => settle (c || r.cancelled) (k r.calm)

/-- Continue with a delivered outcome. -/
def ofExcept : Except ε α → Coro σ ω β ε α
  | .ok a => .ret a
  | .error e => .raise e

/-- The coroutine raises only in states of which `P` holds. -/
def RaisesIn (P : σ → Prop) : Coro σ ω β ε α → σ → Prop
  | .ret _, _ => True
  | .raise _, s => P s
  | .get k, s => RaisesIn P (k s) s
  | .put s' k, _ => RaisesIn P k s'
  | .await _ _ k, _ => ∀ r s, RaisesIn P (k r) s

/-- Run one atomic segment: up to the next suspension, return or exception. -/
def advance : Coro σ ω β ε α → σ → σ × Coro σ ω β ε α
  | .get k, s => advance (k s) s
  | .put s' k, _ => advance k s'
  | .ret a, s => (s, .ret a)
  | .raise e, s => (s, .raise e)
  | .await b w k, s => (s, .await b w k)

/-- Run a coroutine to its end alone: every wait is answered at once. -/
def alone (answer : ω → β) : Coro σ ω β ε α → σ → Except ε α × σ
  | .ret a, s => (.ok a, s)
  | .raise e, s => (.error e, s)
  | .get k, s => alone answer (k s) s
  | .put s' k, _ => alone answer k s'
  | .await _ w k, s => alone answer (k ⟨answer w, false⟩) s

section Alone

variable {answer : ω → β} {c : Coro σ ω β ε α} {s s' : σ}

theorem alone_bind_ok {a : α} (h : c.alone answer s = (.ok a, s'))
    (f : α → Coro σ ω β ε γ) : (c >>= f).alone answer s = (f a).alone answer s' := by
  induction c generalizing s with
  | ret b =>
      obtain ⟨ha, hs⟩ := Prod.mk.inj h
      rw [Except.ok.inj ha, hs]
      rfl
  | raise e => cases h
  | get k ih => exact ih s h
  | put s'' k ih => exact ih h
  | await b w k ih => exact ih _ h

theorem alone_bind_error {e : ε} (h : c.alone answer s = (.error e, s'))
    (f : α → Coro σ ω β ε γ) : (c >>= f).alone answer s = (.error e, s') := by
  induction c generalizing s with
  | ret b => cases h
  | raise e' =>
      obtain ⟨he, hs⟩ := Prod.mk.inj h
      rw [Except.error.inj he, hs]
      rfl
  | get k ih => exact ih s h
  | put s'' k ih => exact ih h
  | await b w k ih => exact ih _ h

theorem alone_bind_cases {f : α → Coro σ ω β ε γ} {b : γ} {s'' : σ}
    (h : (c >>= f).alone answer s = (.ok b, s'')) :
    ∃ a s', c.alone answer s = (.ok a, s') ∧ (f a).alone answer s' = (.ok b, s'') := by
  rcases hc : c.alone answer s with ⟨r, s'⟩
  cases r with
  | ok a => exact ⟨a, s', rfl, (alone_bind_ok hc f).symm.trans h⟩
  | error e =>
      rw [alone_bind_error hc f] at h
      cases h

theorem alone_attempt {r : Except ε α} (h : c.alone answer s = (r, s'))
    (f : Except ε α → Coro σ ω β ε γ) :
    (attempt c >>= f).alone answer s = (f r).alone answer s' := by
  induction c generalizing s with
  | ret b =>
      obtain ⟨rfl, rfl⟩ := Prod.mk.inj h
      rfl
  | raise e =>
      obtain ⟨rfl, rfl⟩ := Prod.mk.inj h
      rfl
  | get k ih => exact ih s h
  | put s'' k ih => exact ih h
  | await b w k ih => exact ih _ h

end Alone

namespace RaisesIn

variable {P : σ → Prop} {s : σ}

theorem bind {c : Coro σ ω β ε α} {f : α → Coro σ ω β ε γ}
    (hc : c.RaisesIn P s) (hf : ∀ a s', (f a).RaisesIn P s') :
    (c >>= f).RaisesIn P s := by
  induction c generalizing s with
  | ret a => exact hf a s
  | raise e => exact hc
  | get k ih => exact ih s hc
  | put s' k ih => exact ih hc
  | await b w k ih => exact fun r s' => ih r (hc r s')

theorem read {f : σ → Coro σ ω β ε γ} (h : (f s).RaisesIn P s) :
    (Coro.read >>= f).RaisesIn P s := h

theorem updateThen {f : σ → σ} {k : Unit → Coro σ ω β ε γ}
    (h : (k ()).RaisesIn P (f s)) : (Coro.update f >>= k).RaisesIn P s := h

theorem settle (c : Coro σ ω β ε α) (b : Bool) :
    (c.settle b).RaisesIn P s := by
  induction c generalizing b s with
  | ret a => trivial
  | raise e => trivial
  | get k ih => exact ih s b
  | put s' k ih => exact ih b
  | await sh w k ih => exact fun r s' => ih _ _

end RaisesIn

end Coro

end Async
end CryoDaq
