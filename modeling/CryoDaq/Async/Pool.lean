import CryoDaq.Async.Coroutine

/-!
# Pools of coroutines

A `System` says which coroutines may be launched, when a wait may be resumed
and how the environment may change the shared state on its own.  A `Pool` is
one instant of such a system: the shared state and every coroutine launched so
far, each at a suspension point or finished.

**Moves.**  A step launches a coroutine and runs its first segment, resumes a
suspended coroutine and runs its next segment, or lets the environment act.
`System.step` computes the step, so a schedule can be replayed on a concrete
pool; `System.Reachable` quantifies over every schedule.
-/

namespace CryoDaq
namespace Async

/-- A system of coroutines over the shared state `σ`: `ι` names what can be
launched, `κ` what the environment can do.  A launched coroutine is told its
own task number. -/
structure System (σ ω β ε ι κ : Type) where
  /-- Whether a wait may be over with a value. -/
  enabled : ω → β → σ → Bool
  /-- The coroutine started by a launch, and the state it starts in. -/
  launch : ι → σ → Option (σ × (Nat → Coro σ ω β ε Unit))
  /-- A change of the shared state made by the environment. -/
  environment : κ → σ → Option σ

/-- One scheduling decision. -/
inductive Move (β ι κ : Type) where
  | launch (i : ι)
  | resume (t : Nat) (r : Wake β)
  | environment (e : κ)

/-- The shared state and the coroutines launched so far. -/
structure Pool (σ ω β ε : Type) where
  state : σ
  tasks : List (Nat × Coro σ ω β ε Unit)
  next : Nat

namespace Pool

variable {σ ω β ε : Type}

/-- The pool in which nothing has been launched. -/
def initial (s : σ) : Pool σ ω β ε := ⟨s, [], 0⟩

/-- The coroutine launched as `t`. -/
def find (p : Pool σ ω β ε) (t : Nat) : Option (Coro σ ω β ε Unit) :=
  p.tasks.lookup t

end Pool

def replaceTask {C : Type} (t : Nat) (c : C) :
    List (Nat × C) → List (Nat × C)
  | [] => []
  | (u, d) :: rest =>
      if u = t then (u, c) :: rest else (u, d) :: replaceTask t c rest

namespace System

variable {σ ω β ε ι κ : Type} (S : System σ ω β ε ι κ)

/-- Whether a resumption may be delivered: the wait is over, or a plain
suspension is cancelled. -/
def resumable (shielded : Bool) (w : ω) (r : Wake β) (s : σ) : Bool :=
  S.enabled w r.value s || (!shielded && r.cancelled)

def step (p : Pool σ ω β ε) : Move β ι κ → Option (Pool σ ω β ε)
  | .launch i =>
      match S.launch i p.state with
      | none => none
      | some (s, program) =>
          let (s', c) := (program p.next).advance s
          some ⟨s', (p.next, c) :: p.tasks, p.next + 1⟩
  | .resume t r =>
      match p.find t with
      | some (.await shielded w k) =>
          if S.resumable shielded w r p.state then
            let (s', c) := (k r).advance p.state
            some ⟨s', replaceTask t c p.tasks, p.next⟩
          else none
      | _ => none
  | .environment e =>
      match S.environment e p.state with
      | none => none
      | some s => some { p with state := s }

def replay : Pool σ ω β ε → List (Move β ι κ) → Option (Pool σ ω β ε)
  | p, [] => some p
  | p, m :: ms =>
      match S.step p m with
      | none => none
      | some q => replay q ms

/-- The pools that some schedule leads to from the initial state `s`. -/
inductive Reachable (s : σ) : Pool σ ω β ε → Prop
  | initial : Reachable s (Pool.initial s)
  | step {p q : Pool σ ω β ε} (m : Move β ι κ) :
      Reachable s p → S.step p m = some q → Reachable s q

theorem reachable_replay {s : σ} :
    ∀ (ms : List (Move β ι κ)) {p q : Pool σ ω β ε},
      S.Reachable s p → S.replay p ms = some q → S.Reachable s q
  | [], p, q, hp, h => by
      have hpq : p = q := Option.some.inj h
      rw [← hpq]
      exact hp
  | m :: ms, p, q, hp, h => by
      unfold replay at h
      cases hm : S.step p m with
      | none =>
          rw [hm] at h
          cases h
      | some r =>
          rw [hm] at h
          exact reachable_replay ms (.step m hp hm) h

end System

end Async
end CryoDaq
