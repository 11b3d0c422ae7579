import CryoDaq.Async.Pool
import Mathlib.Logic.Relation

/-!
# Rely and guarantee for cooperative coroutines

Between two suspension points a coroutine runs alone, so an assertion about
the shared state need only survive the suspension points.  A `Contract` says
what a coroutine may do to the state in one update (`guar`), what everything
else may do while it is suspended (`rely`), what holds of every state (`inv`)
and what it promises wherever it suspends (`parked`).

**Weakest preconditions.**  `wp C cx c Q s` holds when every run of `c` from
`s` keeps the contract and ends in `Q`.  The flag `cx` says whether the
caller's cancellation may be delivered to `c`.

**Soundness.**  A `Discipline` assigns a contract to every task of a system so
that the guarantee of one task is within the rely of every other.
`Discipline.step_sound` turns a step of the pool into a chain of single
updates, each within a guarantee or made from outside, and
`Discipline.reachable_sound` recovers, after any schedule, what each suspended
or finished task promised.
-/

namespace CryoDaq
namespace Async

/-- What one coroutine may do, what it may assume and what it promises. -/
structure Contract (σ ω β : Type) where
  enabled : ω → β → σ → Bool
  inv : σ → Prop
  rely : σ → σ → Prop
  guar : σ → σ → Prop
  parked : ω → σ → Prop

namespace Contract

variable {σ ω β : Type}

/-- Whether a resumption may be delivered under the contract. -/
def resumable (C : Contract σ ω β) (shielded : Bool) (w : ω) (r : Wake β)
    (s : σ) : Prop :=
  C.enabled w r.value s = true ∨ (shielded = false ∧ r.cancelled = true)

end Contract

open Coro

section WeakestPrecondition

variable {σ ω β ε α γ : Type}

/-- Every run of the coroutine from the state keeps the contract and ends in
the postcondition. -/
def wp (C : Contract σ ω β) (cx : Bool) :
    Coro σ ω β ε α → (Except ε α → σ → Prop) → σ → Prop
  | .ret a, Q, s => Q (.ok a) s
  | .raise e, Q, s => Q (.error e) s
  | .get k, Q, s => wp C cx (k s) Q s
  | .put s' k, Q, s => C.guar s s' ∧ wp C cx k Q s'
  | .await b w k, Q, s =>
      C.parked w s ∧
        ∀ s' r, C.rely s s' → C.inv s' → C.resumable b w r s' →
          (cx = false → r.cancelled = false) → wp C cx (k r) Q s'

variable {C : Contract σ ω β} {cx : Bool}

@[simp] theorem wp_ret (a : α) (Q : Except ε α → σ → Prop) (s : σ) :
    wp C cx (.ret a : Coro σ ω β ε α) Q s = Q (.ok a) s := rfl

@[simp] theorem wp_raise (e : ε) (Q : Except ε α → σ → Prop) (s : σ) :
    wp C cx (.raise e : Coro σ ω β ε α) Q s = Q (.error e) s := rfl

@[simp] theorem wp_update (f : σ → σ) (Q : Except ε Unit → σ → Prop) (s : σ) :
    wp C cx (update f : Coro σ ω β ε Unit) Q s =
      (C.guar s (f s) ∧ Q (.ok ()) (f s)) := rfl

@[simp] theorem wp_ofExcept (x : Except ε α) (Q : Except ε α → σ → Prop)
    (s : σ) :
    wp C cx (ofExcept x : Coro σ ω β ε α) Q s = Q x s := by
  cases x <;> rfl

theorem wp_mono {c : Coro σ ω β ε α} {Q Q' : Except ε α → σ → Prop} {s : σ}
    (h : wp C cx c Q s) (hQ : ∀ r s', Q r s' → Q' r s') :
    wp C cx c Q' s := by
  induction c generalizing s with
  | ret a => exact hQ _ _ h
  | raise e => exact hQ _ _ h
  | get k ih => exact ih s h
  | put s' k ih => exact ⟨h.1, ih h.2⟩
  | await b w k ih =>
      refine ⟨h.1, ?_⟩
      intro s' r hrely hinv hen hcx
      exact ih r (h.2 s' r hrely hinv hen hcx)

theorem wp_raisesIn {c : Coro σ ω β ε α} {P : σ → Prop}
    {Q : Except ε α → σ → Prop} {s : σ} (hc : c.RaisesIn P s)
    (h : wp C cx c Q s) :
    wp C cx c (fun r s' => Q r s' ∧ ((∃ a, r = .ok a) ∨ P s')) s := by
  induction c generalizing s with
  | ret a => exact ⟨h, Or.inl ⟨a, rfl⟩⟩
  | raise e => exact ⟨h, Or.inr hc⟩
  | get k ih => exact ih s hc h
  | put s' k ih => exact ⟨h.1, ih hc h.2⟩
  | await b w k ih =>
      refine ⟨h.1, ?_⟩
      intro s' r hrely hinv hen hcx
      exact ih r (hc r s') (h.2 s' r hrely hinv hen hcx)

theorem wp_bind (c : Coro σ ω β ε α) (f : α → Coro σ ω β ε γ)
    (Q : Except ε γ → σ → Prop) (s : σ) :
    wp C cx (c.bind f) Q s ↔
      wp C cx c
        (fun r s' =>
          match r with
          | .ok a => wp C cx (f a) Q s'
          | .error e => Q (.error e) s') s := by
  induction c generalizing s with
  | ret a => rfl
  | raise e => rfl
  | get k ih => exact ih s s
  | put s' k ih =>
      constructor
      · rintro ⟨hg, h⟩
        exact ⟨hg, (ih s').mp h⟩
      · rintro ⟨hg, h⟩
        exact ⟨hg, (ih s').mpr h⟩
  | await b w k ih =>
      constructor
      · rintro ⟨hp, h⟩
        exact ⟨hp, fun s' r h1 h2 h3 h4 => (ih r s').mp (h s' r h1 h2 h3 h4)⟩
      · rintro ⟨hp, h⟩
        exact ⟨hp, fun s' r h1 h2 h3 h4 => (ih r s').mpr (h s' r h1 h2 h3 h4)⟩

theorem wp_seq {c : Coro σ ω β ε α} {f : α → Coro σ ω β ε γ}
    {R : Except ε α → σ → Prop} {Q : Except ε γ → σ → Prop} {s : σ}
    (hc : wp C cx c R s) (hok : ∀ a s', R (.ok a) s' → wp C cx (f a) Q s')
    (herror : ∀ e s', R (.error e) s' → Q (.error e) s') :
    wp C cx (c >>= f) Q s := by
  refine (wp_bind c f Q s).mpr (wp_mono hc ?_)
  intro r s' hr
  cases r with
  | ok a => exact hok a s' hr
  | error e => exact herror e s' hr

/-- The postcondition of a coroutine that does not raise. -/
def Returns (R : α → σ → Prop) : Except ε α → σ → Prop
  | .ok a, s => R a s
  | .error _, _ => False

theorem wp_returnsThen {c : Coro σ ω β ε α} {f : α → Coro σ ω β ε γ}
    {R : α → σ → Prop} {Q : Except ε γ → σ → Prop} {s : σ}
    (hc : wp C cx c (Returns R) s)
    (hf : ∀ a s', R a s' → wp C cx (f a) Q s') : wp C cx (c >>= f) Q s :=
  wp_seq hc hf fun _ _ h => h.elim

theorem wp_readThen {f : σ → Coro σ ω β ε γ} {Q : Except ε γ → σ → Prop}
    {s : σ} (h : wp C cx (f s) Q s) : wp C cx (read >>= f) Q s := h

theorem wp_updateThen {f : σ → σ} {k : Unit → Coro σ ω β ε γ}
    {Q : Except ε γ → σ → Prop} {s : σ} (hg : C.guar s (f s))
    (h : wp C cx (k ()) Q (f s)) : wp C cx (update f >>= k) Q s := ⟨hg, h⟩

theorem wp_attempt (c : Coro σ ω β ε α)
    (Q : Except ε (Except ε α) → σ → Prop) (s : σ) :
    wp C cx (attempt c) Q s ↔ wp C cx c (fun r s' => Q (.ok r) s') s := by
  induction c generalizing s with
  | ret a => rfl
  | raise e => rfl
  | get k ih => exact ih s s
  | put s' k ih =>
      constructor
      · rintro ⟨hg, h⟩
        exact ⟨hg, (ih s').mp h⟩
      · rintro ⟨hg, h⟩
        exact ⟨hg, (ih s').mpr h⟩
  | await b w k ih =>
      constructor
      · rintro ⟨hp, h⟩
        exact ⟨hp, fun s' r h1 h2 h3 h4 => (ih r s').mp (h s' r h1 h2 h3 h4)⟩
      · rintro ⟨hp, h⟩
        exact ⟨hp, fun s' r h1 h2 h3 h4 => (ih r s').mpr (h s' r h1 h2 h3 h4)⟩

theorem wp_attemptThen {c : Coro σ ω β ε α} {k : Except ε α → Coro σ ω β ε γ}
    {Q : Except ε γ → σ → Prop} {s : σ}
    (h : wp C cx c (fun r s' => wp C cx (k r) Q s') s) :
    wp C cx (attempt c >>= k) Q s :=
  (wp_bind _ k Q s).mpr ((wp_attempt c _ s).mpr h)

/-- A coroutine settled for a caller: it is proved with no cancellation, and
the caller learns whether it was itself cancelled meanwhile. -/
theorem wp_settle (c : Coro σ ω β ε α) (b : Bool)
    (Q : Except ε (Except ε α × Bool) → σ → Prop) (s : σ)
    (h : wp C false c
      (fun r s' => ∀ b', (cx = false → b' = b) → Q (.ok (r, b')) s') s) :
    wp C cx (settle b c) Q s := by
  induction c generalizing s b with
  | ret a => exact h b fun _ => rfl
  | raise e => exact h b fun _ => rfl
  | get k ih => exact ih s b s h
  | put s' k ih => exact ⟨h.1, ih b s' h.2⟩
  | await sh w k ih =>
      refine ⟨h.1, ?_⟩
      intro s' r hrely hinv hen hcx
      have hover : C.enabled w r.value s' = true := by
        rcases hen with hen | ⟨hfalse, _⟩
        · exact hen
        · cases hfalse
      refine ih r.calm (b || r.cancelled) s' ?_
      refine wp_mono
        (h.2 s' r.calm hrely hinv (Or.inl hover) fun _ => rfl) ?_
      intro x s'' hx b' hb'
      refine hx b' fun hc => ?_
      rw [hb' hc, hcx hc, Bool.or_false]

/-- Framing.  A coroutine whose updates are within `g` keeps every contract
that allows `g`, and the whole run is within any preorder that contains `g`
and the interference.  That preorder may also pay for what the contract
promises where the coroutine suspends. -/
theorem wp_frame {g P : σ → σ → Prop} {parked : ω → σ → Prop} {s₀ : σ}
    (hg : ∀ s s', C.inv s → P s₀ s → g s s' →
      C.guar s s' ∧ C.inv s' ∧ P s s')
    (htrans : ∀ a b c, P a b → P b c → P a c)
    (hrely : ∀ s s', C.rely s s' → C.inv s' → P s s')
    (hparked : ∀ w s', P s₀ s' → parked w s' → C.parked w s')
    {c : Coro σ ω β ε α} {Q : Except ε α → σ → Prop} {s : σ}
    (hi : C.inv s) (hs : P s₀ s)
    (h : wp { C with guar := g, parked := parked } cx c Q s) :
    wp C cx c (fun r s' => Q r s' ∧ C.inv s' ∧ P s₀ s') s := by
  induction c generalizing s with
  | ret a => exact ⟨h, hi, hs⟩
  | raise e => exact ⟨h, hi, hs⟩
  | get k ih => exact ih s hi hs h
  | put s' k ih =>
      obtain ⟨hguar, hi', hp⟩ := hg s s' hi hs h.1
      exact ⟨hguar, ih hi' (htrans _ _ _ hs hp) h.2⟩
  | await b w k ih =>
      refine ⟨hparked w s hs h.1, ?_⟩
      intro s' r hr hi' hen hcx
      exact ih r hi' (htrans _ _ _ hs (hrely s s' hr hi'))
        (h.2 s' r hr hi' hen hcx)

/-- A run of one coroutine to its end while nothing else happens.  Every wait ends
with some answer that may end it. -/
inductive Ends (enabled : ω → β → σ → Bool) :
    Coro σ ω β ε α → σ → Except ε α → σ → Prop
  | ret (a : α) (s : σ) : Ends enabled (.ret a) s (.ok a) s
  | raise (e : ε) (s : σ) : Ends enabled (.raise e) s (.error e) s
  | get {k : σ → Coro σ ω β ε α} {s s' : σ} {r : Except ε α} :
      Ends enabled (k s) s r s' → Ends enabled (.get k) s r s'
  | put {k : Coro σ ω β ε α} {s s₁ s' : σ} {r : Except ε α} :
      Ends enabled k s₁ r s' → Ends enabled (.put s₁ k) s r s'
  | await {b : Bool} {w : ω} {k : Wake β → Coro σ ω β ε α} {s s' : σ}
      {r : Except ε α} (answer : β) :
      enabled w answer s = true → Ends enabled (k ⟨answer, false⟩) s r s' →
        Ends enabled (.await b w k) s r s'

theorem wp_ends {c : Coro σ ω β ε α} {Q : Except ε α → σ → Prop} {s s' : σ}
    {r : Except ε α} (hrefl : ∀ s, C.rely s s)
    (hguar : ∀ s s', C.inv s → C.guar s s' → C.inv s')
    (he : Ends C.enabled c s r s') (hi : C.inv s) (h : wp C cx c Q s) : Q r s' := by
  induction he with
  | ret a s => exact h
  | raise e s => exact h
  | get _ ih => exact ih hi h
  | @put k s s₁ s' r _ ih => exact ih (hguar s s₁ hi h.1) h.2
  | @await b w k s s' r answer hen _ ih =>
      exact ih hi (h.2 s ⟨answer, false⟩ (hrefl s) hi (Or.inl hen) fun _ => rfl)

section Ends

variable {enabled : ω → β → σ → Bool} {s s' s'' : σ}

theorem Ends.bind {c : Coro σ ω β ε α} {f : α → Coro σ ω β ε γ} {a : α} {r : Except ε γ}
    (h : Ends enabled c s (.ok a) s') (hf : Ends enabled (f a) s' r s'') :
    Ends enabled (c >>= f) s r s'' := by
  generalize hok : (Except.ok a : Except ε α) = r' at h
  induction h with
  | ret b s =>
      cases hok
      exact hf
  | raise e s => cases hok
  | get _ ih => exact .get (ih hf hok)
  | put _ ih => exact .put (ih hf hok)
  | await answer hen _ ih => exact .await answer hen (ih hf hok)

theorem Ends.attempt {c : Coro σ ω β ε α} {f : Except ε α → Coro σ ω β ε γ} {r : Except ε α}
    {r' : Except ε γ} (h : Ends enabled c s r s') (hf : Ends enabled (f r) s' r' s'') :
    Ends enabled (c.attempt >>= f) s r' s'' := by
  induction h with
  | ret b s => exact hf
  | raise e s => exact hf
  | get _ ih => exact .get (ih hf)
  | put _ ih => exact .put (ih hf)
  | await answer hen _ ih => exact .await answer hen (ih hf)

theorem Ends.replay {ι κ : Type} {S : System σ ω β ε ι κ} {c : Coro σ ω β ε Unit}
    {r : Except ε Unit} (h : Ends S.enabled c s r s') (t next : Nat)
    (rest : List (Nat × Coro σ ω β ε Unit)) : ∃ moves c',
      S.replay ⟨(c.advance s).1, (t, (c.advance s).2) :: rest, next⟩ moves =
        some ⟨s', (t, c') :: rest, next⟩ := by
  induction h with
  | ret a s => exact ⟨[], _, rfl⟩
  | raise e s => exact ⟨[], _, rfl⟩
  | get _ ih => exact ih
  | put _ ih => exact ih
  | @await b w k s s' r answer hen _ ih =>
      obtain ⟨moves, c', hmoves⟩ := ih
      refine ⟨.resume t ⟨answer, false⟩ :: moves, c', ?_⟩
      have hfind : Pool.find ⟨s, (t, Coro.await b w k) :: rest, next⟩ t =
          some (Coro.await b w k) := List.lookup_cons_self
      have hready : S.resumable b w ⟨answer, false⟩ s = true := by
        rw [System.resumable, hen, Bool.true_or]
      show S.replay ⟨s, (t, .await b w k) :: rest, next⟩ _ = _
      simp only [System.replay, System.step, hfind, hready, if_true, replaceTask]
      exact hmoves

end Ends

end WeakestPrecondition

/-- One contract for every task of a system, such that the guarantee of one
task is within the rely of every other. -/
structure Discipline {σ ω β ε ι κ : Type} (S : System σ ω β ε ι κ) where
  inv : σ → Prop
  rely : Nat → σ → σ → Prop
  guar : Nat → σ → σ → Prop
  parked : Nat → ω → σ → Prop
  /-- What a finished task leaves behind. -/
  post : Nat → σ → Prop
  rely_refl : ∀ t s, rely t s s
  rely_trans : ∀ t a b c, rely t a b → rely t b c → rely t a c
  guar_inv : ∀ t s s', inv s → guar t s s' → inv s'
  guar_rely : ∀ t u s s', t ≠ u → inv s → guar t s s' → rely u s s'
  parked_stable : ∀ t w s s', rely t s s' → inv s' → parked t w s → parked t w s'
  post_stable : ∀ t s s', rely t s s' → inv s' → post t s → post t s'
  environment_inv : ∀ e s s', S.environment e s = some s' → inv s → inv s'
  environment_rely : ∀ e t s s',
    S.environment e s = some s' → inv s → rely t s s'
  launch_inv : ∀ i s s' c, S.launch i s = some (s', c) → inv s → inv s'
  launch_rely : ∀ i t s s' c,
    S.launch i s = some (s', c) → inv s → rely t s s'

namespace Discipline

variable {σ ω β ε ι κ : Type} {S : System σ ω β ε ι κ} (D : Discipline S)

def contract (t : Nat) : Contract σ ω β where
  enabled := S.enabled
  inv := D.inv
  rely := D.rely t
  guar := D.guar t
  parked := D.parked t

/-- Every coroutine the system launches keeps its contract.  A task that has
not been launched yet is like one that has finished. -/
def Kept : Prop :=
  ∀ i s s' c t, S.launch i s = some (s', c) → D.inv s → D.post t s' →
    wp (D.contract t) true (c t) (fun _ s'' => D.post t s'') s'

/-- One update of the shared state, by a task or from outside. -/
inductive Act : σ → σ → Prop
  | task {s s' : σ} (t : Nat) : D.guar t s s' → Act s s'
  | environment {s s' : σ} (e : κ) : S.environment e s = some s' → Act s s'
  | launch {s s' : σ} (i : ι) (c : Nat → Coro σ ω β ε Unit) :
      S.launch i s = some (s', c) → Act s s'

/-- What a task at the end of a segment promised. -/
def Promise (t : Nat) : Coro σ ω β ε Unit → σ → Prop
  | .await b w k, s =>
      wp (D.contract t) true (.await b w k) (fun _ s' => D.post t s') s
  | .get _, _ => False
  | .put _ _, _ => False
  | _, s => D.post t s

/-- Every task of the pool keeps its promise in the current state. -/
structure Sound (p : Pool σ ω β ε) : Prop where
  inv : D.inv p.state
  fresh : ∀ t c, (t, c) ∈ p.tasks → t < p.next
  launched : ∀ t, t < p.next → t ∈ p.tasks.map Prod.fst
  nodup : (p.tasks.map Prod.fst).Nodup
  unborn : ∀ t, p.next ≤ t → D.post t p.state
  promise : ∀ t c, (t, c) ∈ p.tasks → D.Promise t c p.state

variable {D}

theorem act_inv {s s' : σ} (h : D.Act s s') (hi : D.inv s) : D.inv s' := by
  cases h with
  | task t hg => exact D.guar_inv t s s' hi hg
  | environment e he => exact D.environment_inv e s s' he hi
  | launch i c hl => exact D.launch_inv i s s' c hl hi

theorem promise_stable {t : Nat} {c : Coro σ ω β ε Unit} {s s' : σ}
    (h : D.Promise t c s) (hr : D.rely t s s') (hi : D.inv s') :
    D.Promise t c s' := by
  cases c with
  | ret a => exact D.post_stable t s s' hr hi h
  | raise e => exact D.post_stable t s s' hr hi h
  | get k => exact h
  | put s'' k => exact h
  | await b w k =>
      refine ⟨D.parked_stable t w s s' hr hi h.1, ?_⟩
      intro s'' r hr' hinv hen hcx
      exact h.2 s'' r (D.rely_trans t s s' s'' hr hr') hinv hen hcx

/-- One atomic segment of a task that keeps its contract: the state moves by
single updates of that task, and the task ends the segment with a promise. -/
theorem advance_acts {t : Nat} {c : Coro σ ω β ε Unit} {s : σ}
    (h : wp (D.contract t) true c (fun _ s' => D.post t s') s) :
    Relation.ReflTransGen (D.guar t) s (c.advance s).1 ∧
      D.Promise t (c.advance s).2 (c.advance s).1 := by
  induction c generalizing s with
  | ret a => exact ⟨.refl, h⟩
  | raise e => exact ⟨.refl, h⟩
  | get k ih => exact ih s h
  | put s' k ih =>
      obtain ⟨hacts, hpromise⟩ := ih h.2
      exact ⟨.head h.1 hacts, hpromise⟩
  | await b w k _ => exact ⟨.refl, h⟩

/-- A chain of one task's updates keeps the invariant and is interference
for every other task. -/
theorem chain_rely {t : Nat} {s s' : σ}
    (h : Relation.ReflTransGen (D.guar t) s s') (hi : D.inv s) :
    D.inv s' ∧ ∀ u, t ≠ u → D.rely u s s' := by
  induction h with
  | refl => exact ⟨hi, fun u _ => D.rely_refl u s⟩
  | @tail a b _ hab ih =>
      refine ⟨D.guar_inv t a b ih.1 hab, ?_⟩
      intro u hu
      exact D.rely_trans u s a b (ih.2 u hu) (D.guar_rely t u a b hu ih.1 hab)

theorem chain_acts {t : Nat} {s s' : σ}
    (h : Relation.ReflTransGen (D.guar t) s s') :
    Relation.ReflTransGen D.Act s s' := by
  induction h with
  | refl => exact .refl
  | tail _ hab ih => exact ih.tail (.task t hab)

theorem contract_resumable {t : Nat} {b : Bool} {w : ω} {r : Wake β} {s : σ}
    (h : S.resumable b w r s = true) : (D.contract t).resumable b w r s := by
  simpa [System.resumable, Contract.resumable, contract] using h

theorem mem_of_lookup {C : Type} {t : Nat} {c : C} :
    ∀ {l : List (Nat × C)}, l.lookup t = some c → (t, c) ∈ l
  | [], h => by cases h
  | (u, d) :: rest, h => by
      by_cases hu : t = u
      · subst hu
        have hd : d = c := by simpa [List.lookup_cons] using h
        rw [hd]
        exact List.mem_cons_self
      · have hrest : rest.lookup t = some c := by
          simpa [List.lookup_cons, beq_eq_false_iff_ne.mpr hu] using h
        exact List.mem_cons_of_mem _ (mem_of_lookup hrest)

theorem map_fst_replaceTask {C : Type} (t : Nat) (c : C) :
    ∀ l : List (Nat × C),
      (replaceTask t c l).map Prod.fst = l.map Prod.fst
  | [] => rfl
  | (u, d) :: rest => by
      by_cases hu : u = t
      · simp [replaceTask, hu]
      · simp [replaceTask, hu, map_fst_replaceTask t c rest]

theorem mem_replaceTask {C : Type} {t u : Nat} {c d : C} :
    ∀ {l : List (Nat × C)}, (l.map Prod.fst).Nodup →
      (u, d) ∈ replaceTask t c l → (u = t ∧ d = c) ∨ (u ≠ t ∧ (u, d) ∈ l)
  | [], _, h => by cases h
  | (v, e) :: rest, hn, h => by
      have hv : v ∉ rest.map Prod.fst := (List.nodup_cons.mp hn).1
      have hrest : (rest.map Prod.fst).Nodup := (List.nodup_cons.mp hn).2
      by_cases hvt : v = t
      · subst hvt
        rw [replaceTask, if_pos rfl] at h
        rcases List.mem_cons.mp h with he | hm
        · left
          exact ⟨congrArg Prod.fst he, congrArg Prod.snd he⟩
        · right
          refine ⟨?_, List.mem_cons_of_mem _ hm⟩
          rintro rfl
          exact hv (List.mem_map.mpr ⟨(u, d), hm, rfl⟩)
      · rw [replaceTask, if_neg hvt] at h
        rcases List.mem_cons.mp h with he | hm
        · right
          obtain ⟨rfl, rfl⟩ := Prod.mk.inj he
          exact ⟨hvt, List.mem_cons_self⟩
        · rcases mem_replaceTask hrest hm with heq | ⟨hne, hin⟩
          · exact Or.inl heq
          · exact Or.inr ⟨hne, List.mem_cons_of_mem _ hin⟩

theorem step_sound (hk : D.Kept) {p q : Pool σ ω β ε} {m : Move β ι κ}
    (hp : D.Sound p) (h : S.step p m = some q) :
    Relation.ReflTransGen D.Act p.state q.state ∧ D.Sound q := by
  cases m with
  | launch i =>
      simp only [System.step] at h
      cases hl : S.launch i p.state with
      | none =>
          rw [hl] at h
          cases h
      | some pair =>
          obtain ⟨s, c⟩ := pair
          rw [hl] at h
          obtain rfl := Option.some.inj h
          have hinv : D.inv s := D.launch_inv i _ _ c hl hp.inv
          have hpost : D.post p.next s :=
            D.post_stable _ _ _ (D.launch_rely i _ _ _ c hl hp.inv) hinv
              (hp.unborn _ (Nat.le_refl _))
          obtain ⟨hacts, hpromise⟩ :=
            advance_acts (hk i p.state s c p.next hl hp.inv hpost)
          obtain ⟨hinv', hrely⟩ := chain_rely hacts hinv
          refine ⟨.head (.launch i c hl) (chain_acts hacts), ?_⟩
          refine ⟨hinv', ?_, ?_, ?_, ?_, ?_⟩
          · intro t d hm
            rcases List.mem_cons.mp hm with he | hm
            · have ht : t = p.next := congrArg Prod.fst he
              rw [ht]
              exact Nat.lt_succ_self p.next
            · exact Nat.lt_succ_of_lt (hp.fresh t d hm)
          · intro t ht
            rcases Nat.lt_succ_iff_lt_or_eq.mp ht with hlt | rfl
            · exact List.mem_cons_of_mem _ (hp.launched t hlt)
            · exact List.mem_cons_self
          · refine List.nodup_cons.mpr ⟨?_, hp.nodup⟩
            intro hm
            obtain ⟨⟨t, d⟩, hmem, ht⟩ := List.mem_map.mp hm
            have := hp.fresh t d hmem
            simp only at ht
            omega
          · intro t ht
            have hlt : p.next < t := ht
            refine D.post_stable t _ _ ?_ hinv' (hp.unborn t (by omega))
            exact D.rely_trans t _ _ _
              (D.launch_rely i t _ _ c hl hp.inv) (hrely t (by omega))
          · intro t d hm
            rcases List.mem_cons.mp hm with he | hm
            · obtain ⟨rfl, rfl⟩ := Prod.mk.inj he
              exact hpromise
            · have ht := hp.fresh t d hm
              refine promise_stable (hp.promise t d hm) ?_ hinv'
              exact D.rely_trans t _ _ _
                (D.launch_rely i t _ _ c hl hp.inv) (hrely t (by omega))
  | resume t r =>
      simp only [System.step] at h
      cases hf : p.find t with
      | none =>
          rw [hf] at h
          cases h
      | some c =>
          rw [hf] at h
          cases c with
          | ret a => cases h
          | raise e => cases h
          | get k => cases h
          | put s k => cases h
          | await b w k =>
              by_cases hen : S.resumable b w r p.state = true
              · simp only [hen, if_true] at h
                obtain rfl := Option.some.inj h
                have hmem := mem_of_lookup hf
                have hkeep : wp (D.contract t) true (k r)
                    (fun _ s' => D.post t s') p.state :=
                  (hp.promise t _ hmem).2 p.state r
                    (D.rely_refl t _) hp.inv (contract_resumable hen) (by simp)
                obtain ⟨hacts, hpromise⟩ := advance_acts hkeep
                obtain ⟨hinv', hrely⟩ := chain_rely hacts hp.inv
                refine ⟨chain_acts hacts, hinv', ?_, ?_, ?_, ?_, ?_⟩
                · intro u d hm
                  rcases mem_replaceTask hp.nodup hm with ⟨rfl, _⟩ | ⟨_, hin⟩
                  · exact hp.fresh u _ hmem
                  · exact hp.fresh u d hin
                · rw [map_fst_replaceTask]
                  exact hp.launched
                · exact (map_fst_replaceTask t _ p.tasks).symm ▸ hp.nodup
                · intro u hu
                  have ht : t < p.next := hp.fresh t _ hmem
                  have hne : t ≠ u := by
                    rintro rfl
                    exact absurd ht (Nat.not_lt.mpr hu)
                  exact D.post_stable u _ _ (hrely u hne) hinv'
                    (hp.unborn u hu)
                · intro u d hm
                  rcases mem_replaceTask hp.nodup hm with
                    ⟨rfl, rfl⟩ | ⟨hne, hin⟩
                  · exact hpromise
                  · exact promise_stable (hp.promise u d hin)
                      (hrely u (Ne.symm hne)) hinv'
              · simp only [hen] at h
                cases h
  | environment e =>
      simp only [System.step] at h
      cases he : S.environment e p.state with
      | none =>
          rw [he] at h
          cases h
      | some s =>
          rw [he] at h
          obtain rfl := Option.some.inj h
          have hinv : D.inv s := D.environment_inv e _ _ he hp.inv
          refine ⟨.single (.environment e he), hinv, hp.fresh, hp.launched,
            hp.nodup, ?_, ?_⟩
          · intro t ht
            exact D.post_stable t _ _ (D.environment_rely e t _ _ he hp.inv)
              hinv (hp.unborn t ht)
          intro t c hm
          exact promise_stable (hp.promise t c hm)
            (D.environment_rely e t _ _ he hp.inv) hinv

theorem reachable_sound (hk : D.Kept) {s : σ} (hi : D.inv s)
    (h0 : ∀ t, D.post t s) {p : Pool σ ω β ε} (h : S.Reachable s p) :
    D.Sound p := by
  induction h with
  | initial =>
      refine ⟨hi, ?_, fun t ht => absurd ht (Nat.not_lt_zero t),
        List.nodup_nil, fun t _ => h0 t, ?_⟩ <;>
        · intro t c hm
          cases hm
  | step m _ hstep ih => exact (step_sound hk ih hstep).2

end Discipline

end Async
end CryoDaq
