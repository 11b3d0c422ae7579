import CryoDaq.Async.Rely
import Mathlib.Data.Nat.Notation
import Mathlib.Logic.Function.Basic

/-!
# Transactions on database files

Tasks work on database files over connections.  A connection that has begun a write transaction is
the only one that writes to its file; the others see what is committed.

**Calls.**  Every call of a connection is a wait.  It is done, it is refused without an effect, or
its effect takes place and it raises all the same.  Anything may happen in other tasks before it.

**Worlds.**  The `World` is what outlives a transaction: the committed files, the memory of the
tasks, and notes of what was asked of them and what they answered.

**Endings.**  The environment may end a task at any time.  A task that has ended makes no more
calls, and its transactions are rolled back.
-/

namespace CryoDaq
namespace Sqlite

open Async

abbrev Connection := ℕ × ℕ

/-- How a call ends. -/
inductive Answer (ε : Type)
  | done
  | refused (e : ε)
  | lost (e : ε)

inductive Needs
  /-- nothing -/
  | nothing
  /-- no write transaction on the file -/
  | unlocked
  /-- no write transaction of the connection -/
  | idle
  /-- The call never ends. -/
  | forever
deriving DecidableEq

structure Wait (δ : Type) where
  connection : Connection
  file : δ
  needs : Needs

/-- What outlives a transaction. -/
structure World (δ φ ν μ : Type) where
  files : δ → φ
  notes : List ν
  memory : ℕ → μ

/-- The world, the open write transactions with what their connections see, the connections that
committed to each file, and the tasks that have ended. -/
structure Store (δ φ ν μ : Type) where
  world : World δ φ ν μ
  writing : δ → Option (Connection × φ)
  commits : δ → List Connection
  dead : List ℕ

variable {δ φ ν μ ε α : Type}

namespace World

def put [DecidableEq δ] (w : World δ φ ν μ) (d : δ) (f : φ) : World δ φ ν μ :=
  { w with files := Function.update w.files d f }

def record (w : World δ φ ν μ) (n : ν) : World δ φ ν μ := { w with notes := n :: w.notes }

/-- The world in which a task remembers something else. -/
def remember (w : World δ φ ν μ) (t : ℕ) (m : μ) : World δ φ ν μ :=
  { w with memory := Function.update w.memory t m }

variable (w : World δ φ ν μ) (d : δ) (f : φ) (n : ν) (t : ℕ) (m : μ)

@[simp] theorem put_files_self [DecidableEq δ] : (w.put d f).files d = f :=
  Function.update_self ..

@[simp] theorem put_files_of_ne [DecidableEq δ] {d d' : δ} (h : d' ≠ d) :
    (w.put d f).files d' = w.files d' := Function.update_of_ne h ..

@[simp] theorem put_memory [DecidableEq δ] : (w.put d f).memory = w.memory := rfl

@[simp] theorem record_notes : (w.record n).notes = n :: w.notes := rfl

@[simp] theorem record_memory : (w.record n).memory = w.memory := rfl

@[simp] theorem remember_files : (w.remember t m).files = w.files := rfl

@[simp] theorem remember_notes : (w.remember t m).notes = w.notes := rfl

@[simp] theorem remember_memory_self : (w.remember t m).memory t = m := Function.update_self ..

@[simp] theorem remember_memory_of_ne {t u : ℕ} (h : u ≠ t) :
    (w.remember t m).memory u = w.memory u :=
  Function.update_of_ne h ..

end World

namespace Store

def opening (w : World δ φ ν μ) : Store δ φ ν μ := ⟨w, fun _ => none, fun _ => [], []⟩

/-- The connection is in the write transaction of the file and sees `f`. -/
def Holds (s : Store δ φ ν μ) (c : Connection) (d : δ) (f : φ) : Prop :=
  s.writing d = some (c, f)

def seen (c : Connection) (d : δ) (s : Store δ φ ν μ) : φ :=
  match s.writing d with
  | some (c', f) => if c' = c then f else s.world.files d
  | none => s.world.files d

def inTransaction (c : Connection) (d : δ) (s : Store δ φ ν μ) : Bool :=
  match s.writing d with
  | some (c', _) => c' = c
  | none => false

/-- How often other connections have committed to a file. -/
def dataVersion (c : Connection) (d : δ) (s : Store δ φ ν μ) : ℕ :=
  ((s.commits d).filter (· ≠ c)).length

def noted (n : ν) (s : Store δ φ ν μ) : Store δ φ ν μ := { s with world := s.world.record n }

/-- With another memory of a task. -/
def assigned (t : ℕ) (m : μ) (s : Store δ φ ν μ) : Store δ φ ν μ :=
  { s with world := s.world.remember t m }

def ended (t : ℕ) (s : Store δ φ ν μ) : Store δ φ ν μ :=
  { s with
    writing := fun d => (s.writing d).filter fun p => decide (p.1.1 ≠ t)
    dead := t :: s.dead }

variable {s : Store δ φ ν μ} {c : Connection} {d d' : δ} {f g : φ}

theorem Holds.inTransaction (h : s.Holds c d f) : s.inTransaction c d = true := by
  rw [Holds] at h
  simp [Store.inTransaction, h]

theorem Holds.seen (h : s.Holds c d f) : s.seen c d = f := by
  rw [Holds] at h
  simp [Store.seen, h]

theorem exists_holds (h : s.inTransaction c d = true) : ∃ f, s.Holds c d f := by
  unfold Store.inTransaction at h
  split at h
  case h_1 c' f hw =>
    obtain rfl := of_decide_eq_true h
    exact ⟨f, hw⟩
  case h_2 => cases h

variable [DecidableEq δ]

/-- After `BEGIN IMMEDIATE`. -/
def begun (c : Connection) (d : δ) (s : Store δ φ ν μ) : Store δ φ ν μ :=
  { s with writing := Function.update s.writing d (some (c, s.world.files d)) }

def wrote (c : Connection) (d : δ) (f : φ) (s : Store δ φ ν μ) : Store δ φ ν μ :=
  if s.inTransaction c d then { s with writing := Function.update s.writing d (some (c, f)) } else s

/-- After `COMMIT`. -/
def committed (c : Connection) (d : δ) (s : Store δ φ ν μ) : Store δ φ ν μ :=
  if s.inTransaction c d then
    { s with
      world := s.world.put d (s.seen c d)
      writing := Function.update s.writing d none
      commits := Function.update s.commits d (c :: s.commits d) }
  else s

/-- After `ROLLBACK`, or when the connection is closed. -/
def rolledBack (c : Connection) (d : δ) (s : Store δ φ ν μ) : Store δ φ ν μ :=
  if s.inTransaction c d then { s with writing := Function.update s.writing d none } else s

theorem holds_begun (c : Connection) (d : δ) (s : Store δ φ ν μ) :
    (s.begun c d).Holds c d (s.world.files d) := Function.update_self ..

theorem Holds.wrote (h : s.Holds c d f) (g : φ) : (s.wrote c d g).Holds c d g := by
  rw [Store.wrote, if_pos h.inTransaction]
  exact Function.update_self ..

@[simp] theorem begun_world : (s.begun c d).world = s.world := rfl

@[simp] theorem wrote_world : (s.wrote c d f).world = s.world := by
  unfold wrote
  split <;> rfl

@[simp] theorem rolledBack_world : (s.rolledBack c d).world = s.world := by
  unfold rolledBack
  split <;> rfl

theorem Holds.committed_world (h : s.Holds c d f) :
    (s.committed c d).world = s.world.put d f := by
  rw [committed, if_pos h.inTransaction, h.seen]

end Store

/-- Coroutines that work on database files. -/
abbrev Sql (δ φ ν μ ε α : Type) := Coro (Store δ φ ν μ) (Wait δ) (Answer ε) ε α

/-- Whether a call may have its effect. -/
def ready (s : Store δ φ ν μ) (w : Wait δ) : Bool :=
  match w.needs with
  | .nothing => true
  | .unlocked => (s.writing w.file).isNone
  | .idle => !s.inTransaction w.connection w.file
  | .forever => false

/-- Whether a call may end with an answer. -/
def enabled (w : Wait δ) (a : Answer ε) (s : Store δ φ ν μ) : Bool :=
  decide (w.connection.1 ∉ s.dead) &&
    match a with
    | .refused _ => decide (w.needs ≠ .forever)
    | _ => ready s w

def call (c : Connection) (d : δ) (needs : Needs) (effect : Store δ φ ν μ → Store δ φ ν μ) :
    Sql δ φ ν μ ε Unit :=
  .await true ⟨c, d, needs⟩ fun r =>
    match r.value with
    | .done => .update effect
    | .refused e => .raise e
    | .lost e => .get fun s => .put (effect s) (.raise e)

variable (c : Connection) (d : δ)

def touch (needs : Needs) : Sql δ φ ν μ ε Unit := call c d needs id

/-- A loop that goes on for ever. -/
def hang (e : ε) : Sql δ φ ν μ ε α := .await true ⟨c, d, .forever⟩ fun _ => .raise e

/-- A call that reads what the connection sees. -/
def query (q : φ → Except ε α) : Sql δ φ ν μ ε α :=
  .await true ⟨c, d, .nothing⟩ fun r =>
    match r.value with
    | .done => .get fun s => .ofExcept (q (s.seen c d))
    | .refused e => .raise e
    | .lost e => .raise e

variable [DecidableEq δ]

/-- `BEGIN IMMEDIATE` -/
def begin : Sql δ φ ν μ ε Unit := call c d .unlocked (Store.begun c d)

def commit : Sql δ φ ν μ ε Unit := call c d .nothing (Store.committed c d)

/-- `conn.rollback()`, or `conn.close()` -/
def rollback : Sql δ φ ν μ ε Unit := call c d .nothing (Store.rolledBack c d)

/-- A call that writes in the transaction of the connection. -/
def execute (q : φ → Except ε φ) : Sql δ φ ν μ ε Unit :=
  .await true ⟨c, d, .nothing⟩ fun r =>
    match r.value with
    | .done => .get fun s =>
        match q (s.seen c d) with
        | .ok f => .put (s.wrote c d f) (.ret ())
        | .error e => .raise e
    | .refused e => .raise e
    | .lost e => .get fun s =>
        match q (s.seen c d) with
        | .ok f => .put (s.wrote c d f) (.raise e)
        | .error e => .raise e

end Sqlite
end CryoDaq
