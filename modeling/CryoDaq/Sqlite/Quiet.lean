import CryoDaq.Sqlite.Rules

/-!
# Calls that nothing disturbs

A task that works alone finds every file free.  Each of its calls is done at once, so what it does
to the store can be followed call by call: `Quiet` holds between its transactions and `Lone` inside
one.

**Schedules.**  `ends_launched`: a program that ends alone is a schedule of the system.
-/

namespace CryoDaq
namespace Sqlite

open Async

variable {δ φ ν μ ε α : Type} {s : Store δ φ ν μ} {c : Connection} {d : δ} {f g : φ}

/-- Nothing is open, and every task lives. -/
structure Quiet (s : Store δ φ ν μ) : Prop where
  writing : ∀ d, s.writing d = none
  dead : s.dead = []

/-- A quiet store in which a connection has begun a write transaction. -/
structure Lone (s : Store δ φ ν μ) (c : Connection) (d : δ) (f : φ) : Prop where
  holds : s.Holds c d f
  writing : ∀ d', d' ≠ d → s.writing d' = none
  dead : s.dead = []

theorem enabled_done {w : Wait δ} (hdead : s.dead = []) (hready : ready s w = true) :
    enabled w (.done : Answer ε) s = true := by
  simp [enabled, hdead, hready]

theorem ends_call {needs : Needs} {effect : Store δ φ ν μ → Store δ φ ν μ} (hdead : s.dead = [])
    (hready : ready s ⟨c, d, needs⟩ = true) :
    Ends enabled (call c d needs effect : Sql δ φ ν μ ε Unit) s (.ok ()) (effect s) :=
  .await .done (enabled_done hdead hready) (.get (.put (.ret () _)))

theorem ends_query {q : φ → Except ε α} {r : Except ε α} (hdead : s.dead = [])
    (hq : q (s.seen c d) = r) :
    Ends enabled (query c d q : Sql δ φ ν μ ε α) s r s := by
  refine .await .done (enabled_done hdead rfl) (.get ?_)
  rw [hq]
  cases r with
  | ok a => exact .ret a s
  | error e => exact .raise e s

theorem Quiet.query {q : φ → Except ε α} {r : Except ε α} (hs : Quiet s)
    (hq : q (s.world.files d) = r) :
    Ends enabled (query c d q : Sql δ φ ν μ ε α) s r s := by
  refine ends_query hs.dead ?_
  rw [Store.seen, hs.writing d]
  exact hq

theorem Lone.query {q : φ → Except ε α} {r : Except ε α} (hs : Lone s c d f) (hq : q f = r) :
    Ends enabled (query c d q : Sql δ φ ν μ ε α) s r s := by
  refine ends_query hs.dead ?_
  rw [hs.holds.seen]
  exact hq

theorem Lone.assigned (hs : Lone s c d f) (t : ℕ) (m : μ) : Lone (s.assigned t m) c d f :=
  ⟨hs.holds, hs.writing, hs.dead⟩

theorem Quiet.assigned (hs : Quiet s) (t : ℕ) (m : μ) : Quiet (s.assigned t m) :=
  ⟨hs.writing, hs.dead⟩

variable [DecidableEq δ]

theorem Quiet.begun (hs : Quiet s) (c : Connection) (d : δ) :
    Lone (s.begun c d) c d (s.world.files d) where
  holds := Store.holds_begun c d s
  writing := fun d' hd => (Function.update_of_ne hd ..).trans (hs.writing d')
  dead := hs.dead

theorem Lone.wrote (hs : Lone s c d f) (g : φ) : Lone (s.wrote c d g) c d g where
  holds := hs.holds.wrote g
  writing := by
    intro d' hd
    rw [Store.wrote, if_pos hs.holds.inTransaction]
    exact (Function.update_of_ne hd ..).trans (hs.writing d' hd)
  dead := by
    rw [Store.wrote, if_pos hs.holds.inTransaction]
    exact hs.dead

theorem Lone.committed (hs : Lone s c d f) : Quiet (s.committed c d) := by
  rw [Store.committed, if_pos hs.holds.inTransaction]
  refine ⟨fun d' => ?_, hs.dead⟩
  by_cases hd : d' = d
  · subst hd
    exact Function.update_self ..
  · exact (Function.update_of_ne hd ..).trans (hs.writing d' hd)

theorem Lone.execute {q : φ → Except ε φ} (hs : Lone s c d f) (hq : q f = .ok g) :
    Ends enabled (execute c d q : Sql δ φ ν μ ε Unit) s (.ok ()) (s.wrote c d g) := by
  refine .await .done (enabled_done hs.dead rfl) (.get ?_)
  rw [hs.holds.seen, hq]
  exact .put (.ret () _)

theorem Quiet.begin (hs : Quiet s) (c : Connection) (d : δ) :
    Ends enabled (begin c d : Sql δ φ ν μ ε Unit) s (.ok ()) (s.begun c d) :=
  ends_call hs.dead (by rw [ready, hs.writing d]; rfl)

omit [DecidableEq δ] in
theorem ends_launched (program : ℕ → Sql δ φ ν μ ε Unit)
    {p : Pool (Store δ φ ν μ) (Wait δ) (Answer ε) ε} {r : Except ε Unit} {s' : Store δ φ ν μ}
    (h : Ends enabled (program p.next) p.state r s') : ∃ moves q,
      (tasks program).replay p moves = some q ∧ q.state = s' ∧ q.next = p.next + 1 := by
  obtain ⟨moves, c, hmoves⟩ := Ends.replay (S := tasks program) h p.next (p.next + 1) p.tasks
  exact ⟨.launch () :: moves, _, hmoves, rfl, rfl⟩

end Sqlite
end CryoDaq
