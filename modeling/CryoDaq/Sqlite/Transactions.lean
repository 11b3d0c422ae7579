import CryoDaq.Sqlite.Rules

/-!
# Reasoning inside a transaction

A task inside a write transaction knows the committed file and what it has made of it, and both stay
until it ends the transaction.  `Within` is the triple for what it does there: it relates the
committed file to the one that the connection sees.

**Leaving.**  When a call inside raises, the task still knows of the world what it knew before, as
long as the others leave that alone.  It ends the transaction by a commit that the policy permits or
rolls it back.
-/

namespace CryoDaq
namespace Sqlite
namespace Policy

open Async

variable {δ φ ν μ ε α β : Type} [DecidableEq δ]

/-- What the others leave alone. -/
def Steady (P : Policy δ φ ν μ) (t : ℕ) (A : World δ φ ν μ → Prop) : Prop :=
  ∀ w w', P.stable t w w' → P.inv w' → A w → A w'

/-- The world keeps the policy, and the task knows something of it. -/
structure Outside (P : Policy δ φ ν μ) (A : World δ φ ν μ → Prop) (s : Store δ φ ν μ) :
    Prop where
  inv : P.inv s.world
  known : A s.world

/-- The connection is in the write transaction, and what it sees is related to the file. -/
structure Inside (P : Policy δ φ ν μ) (c : Connection) (d : δ) (A : World δ φ ν μ → Prop)
    (F : φ → φ → Prop) (s : Store δ φ ν μ) : Prop extends P.Outside A s where
  sees : ∃ f, s.Holds c d f ∧ F (s.world.files d) f

/-- How a run ends: with a value, or raising. -/
def Ended (onValue : α → Store δ φ ν μ → Prop) (onError : Store δ φ ν μ → Prop) :
    Except ε α → Store δ φ ν μ → Prop
  | .ok a, s => onValue a s
  | .error _, s => onError s

/-- A run that begins inside ends inside, or raises. -/
def Within (P : Policy δ φ ν μ) (t n : ℕ) (d : δ) (A : World δ φ ν μ → Prop) (F : φ → φ → Prop)
    (m : Sql δ φ ν μ ε α) (G : α → φ → φ → Prop) : Prop :=
  ∀ cx s, P.Inside (t, n) d A F s →
    wp (P.contract t) cx m (Ended (fun a => P.Inside (t, n) d A (G a)) (P.Outside A)) s

variable {P : Policy δ φ ν μ} {t n : ℕ} {d : δ} {A B : World δ φ ν μ → Prop}
  {F F' : φ → φ → Prop} {G : α → φ → φ → Prop} {H : β → φ → φ → Prop} {s s' : Store δ φ ν μ}
  {cx : Bool}

theorem Outside.mono (h : P.Outside A s) (hAB : ∀ w, A w → B w) : P.Outside B s :=
  ⟨h.inv, hAB _ h.known⟩

theorem Outside.rely (hA : P.Steady t A) (h : P.Outside A s) (hrely : P.Rely t s s')
    (hi : P.inv s'.world) : P.Outside A s' :=
  ⟨hi, hA _ _ hrely.world hi h.known⟩

theorem Inside.rely (hA : P.Steady t A) (h : P.Inside (t, n) d A F s) (hrely : P.Rely t s s')
    (hi : P.inv s'.world) (halive : t ∉ s'.dead) : P.Inside (t, n) d A F s' where
  toOutside := h.toOutside.rely hA hrely hi
  sees := by
    obtain ⟨f, hf, hF⟩ := h.sees
    obtain ⟨hf', hfile⟩ := hrely.held halive n d f hf
    exact ⟨f, hf', by rw [hfile]; exact hF⟩

theorem Inside.mono (h : P.Inside (t, n) d A F s) (hF : ∀ b f, F b f → F' b f) :
    P.Inside (t, n) d A F' s where
  toOutside := h.toOutside
  sees := by
    obtain ⟨f, hf, hF₀⟩ := h.sees
    exact ⟨f, hf, hF _ _ hF₀⟩

theorem Inside.learn (h : P.Inside (t, n) d A F s) (F' : φ → φ → Prop)
    (hF : ∀ w f, P.inv w → A w → F (w.files d) f → F' (w.files d) f) :
    P.Inside (t, n) d A F' s where
  toOutside := h.toOutside
  sees := by
    obtain ⟨f, hf, hF₀⟩ := h.sees
    exact ⟨f, hf, hF _ f h.inv h.known hF₀⟩

namespace Within

theorem pure {a : α} (h : ∀ b f, F b f → G a b f) :
    P.Within t n d A F (.ret a : Sql δ φ ν μ ε α) G := fun _ _ hs => hs.mono h

theorem mono {m : Sql δ φ ν μ ε α} {G' : α → φ → φ → Prop} (h : P.Within t n d A F m G)
    (hG : ∀ a b f, G a b f → G' a b f) : P.Within t n d A F m G' := by
  intro cx s hs
  refine wp_mono (h cx s hs) fun r s' hr => ?_
  cases r with
  | ok a => exact hr.mono (hG a)
  | error e => exact hr

theorem raise {e : ε} : P.Within t n d A F (.raise e : Sql δ φ ν μ ε α) G :=
  fun _ _ hs => hs.toOutside

theorem ofExceptThen {x : Except ε α} {k : α → Sql δ φ ν μ ε β}
    (h : ∀ a, x = .ok a → P.Within t n d A F (k a) H) :
    P.Within t n d A F (Coro.ofExcept x >>= k) H := by
  cases x with
  | ok a => exact h a rfl
  | error e => exact raise

theorem readThen {k : Store δ φ ν μ → Sql δ φ ν μ ε β} (h : ∀ s, P.Within t n d A F (k s) H) :
    P.Within t n d A F (Coro.read >>= k) H := fun cx s hs => h s cx s hs

theorem bind {m : Sql δ φ ν μ ε α} {k : α → Sql δ φ ν μ ε β} (hm : P.Within t n d A F m G)
    (hk : ∀ a, P.Within t n d A (G a) (k a) H) : P.Within t n d A F (m >>= k) H :=
  fun cx s hs => wp_seq (hm cx s hs) (fun a s' hok => hk a cx s' hok) fun _ _ herror => herror

theorem query (hA : P.Steady t A) {q : φ → Except ε α}
    (h : ∀ b f a, F b f → q f = .ok a → G a b f) :
    P.Within t n d A F (Sqlite.query (t, n) d q) G := by
  intro cx s hs
  refine wp_query (fun s' hrely hi _ _ => hs.toOutside.rely hA hrely hi) ?_
  intro s' hrely hi halive
  have hs' := hs.rely hA hrely hi halive
  obtain ⟨f, hf, hF⟩ := hs'.sees
  rw [hf.seen]
  cases hq : q f with
  | error e => exact hs'.toOutside
  | ok a => exact ⟨hs'.toOutside, f, hf, h _ f a hF hq⟩

theorem execute (hA : P.Steady t A) {q : φ → Except ε φ}
    (h : ∀ b f g, F b f → q f = .ok g → F' b g) :
    P.Within t n d A F (Sqlite.execute (t, n) d q) fun _ => F' := by
  intro cx s hs
  refine wp_execute (fun s' hrely hi _ _ => hs.toOutside.rely hA hrely hi) ?_
  intro s' g hrely hi halive hq
  have hs' := hs.rely hA hrely hi halive
  obtain ⟨f, hf, hF⟩ := hs'.sees
  rw [hf.seen] at hq
  have hout : P.Outside A (s'.wrote (t, n) d g) := by
    refine ⟨?_, ?_⟩ <;> rw [Store.wrote_world]
    · exact hs'.inv
    · exact hs'.known
  refine ⟨⟨hout, g, hf.wrote g, ?_⟩, fun _ => hout⟩
  rw [Store.wrote_world]
  exact h _ f g hF hq

theorem touch (hA : P.Steady t A) {needs : Needs} :
    P.Within t n d A F (Sqlite.touch (t, n) d needs : Sql δ φ ν μ ε Unit) fun _ => F := by
  intro cx s hs
  refine wp_touch fun s' hrely hi halive r => ?_
  have hs' := hs.rely hA hrely hi halive
  cases r with
  | ok a => exact hs'
  | error e => exact hs'.toOutside

theorem assign {g : Store δ φ ν μ → μ}
    (h : ∀ s, P.Outside A s → P.remembers t s.world (g s) ∧ A (s.world.remember t (g s))) :
    P.Within t n d A F (Coro.update fun s => s.assigned t (g s) : Sql δ φ ν μ ε Unit)
      fun _ => F := by
  intro cx s hs
  obtain ⟨hremembers, hkept⟩ := h s hs.toOutside
  obtain ⟨f, hf, hF⟩ := hs.sees
  exact ⟨.assign s (g s) hremembers, ⟨P.remembers_inv t _ _ hs.inv hremembers, hkept⟩, f, hf, hF⟩

end Within

/-! ## Beginning and end -/

theorem Outside.begin (hA : P.Steady t A) (hs : P.Outside A s) :
    wp (P.contract t) cx (Sqlite.begin (t, n) d : Sql δ φ ν μ ε Unit)
      (Ended (fun _ => P.Inside (t, n) d A fun b f => f = b) (P.Outside A)) s := by
  refine wp_begin (fun s' hrely hi _ _ => hs.rely hA hrely hi) fun s' hrely hi _ => ?_
  have hs' := hs.rely hA hrely hi
  have hout : P.Outside A (s'.begun (t, n) d) := ⟨hs'.inv, hs'.known⟩
  exact ⟨⟨hout, _, Store.holds_begun (t, n) d s', rfl⟩, fun _ => hout⟩

theorem Inside.commit (hA : P.Steady t A) (hs : P.Inside (t, n) d A F s)
    (hcommit : ∀ w f, P.inv w → A w → F (w.files d) f → P.commits t w d f ∧ B (w.put d f)) :
    wp (P.contract t) cx (Sqlite.commit (t, n) d : Sql δ φ ν μ ε Unit)
      (Ended (fun _ => P.Outside B) (P.Outside fun w => A w ∨ B w)) s := by
  refine wp_commit ?_ fun s' hrely hi halive => ?_
  · exact fun s' hrely hi _ _ => (hs.toOutside.rely hA hrely hi).mono fun _ => Or.inl
  · have hs' := hs.rely hA hrely hi halive
    obtain ⟨f, hf, hF⟩ := hs'.sees
    obtain ⟨hallowed, hB⟩ := hcommit _ f hs'.inv hs'.known hF
    have hout : P.Outside B (s'.committed (t, n) d) := by
      refine ⟨?_, ?_⟩ <;> rw [hf.committed_world]
      · exact P.commits_inv t _ d f hs'.inv hallowed
      · exact hB
    refine ⟨fun g hg => ?_, hout, fun _ => hout.mono fun _ => Or.inr⟩
    rw [Store.Holds, hf] at hg
    cases hg
    exact hallowed

theorem Outside.rollback (hA : P.Steady t A) (hs : P.Outside A s) :
    wp (P.contract t) cx (Sqlite.rollback (t, n) d : Sql δ φ ν μ ε Unit)
      (fun _ s' => P.Outside A s') s := by
  refine wp_rollback (fun s' hrely hi _ e => hs.rely hA hrely hi) fun s' hrely hi _ => ?_
  have hs' := hs.rely hA hrely hi
  have hout : P.Outside A (s'.rolledBack (t, n) d) :=
    ⟨by rw [Store.rolledBack_world]; exact hs'.inv, by rw [Store.rolledBack_world]; exact hs'.known⟩
  exact ⟨hout, fun _ => hout⟩

theorem Outside.touch (hA : P.Steady t A) {needs : Needs} (hs : P.Outside A s) :
    wp (P.contract t) cx (Sqlite.touch (t, n) d needs : Sql δ φ ν μ ε Unit)
      (fun _ s' => P.Outside A s') s :=
  wp_touch fun _ hrely hi _ _ => hs.rely hA hrely hi

theorem Outside.idle (hA : P.Steady t A) (hs : P.Outside A s) :
    wp (P.contract t) cx (Sqlite.touch (t, n) d .idle : Sql δ φ ν μ ε Unit)
      (Ended (fun _ s' => P.Outside A s' ∧ s'.inTransaction (t, n) d = false) (P.Outside A)) s := by
  refine wp_call (fun s' hrely hi _ _ => hs.rely hA hrely hi) fun s' hrely hi _ hready => ?_
  have hs' := hs.rely hA hrely hi
  have hidle : s'.inTransaction (t, n) d = false := by simpa [ready] using hready
  exact ⟨.refl s', ⟨hs', hidle⟩, fun _ => hs'⟩

theorem Outside.commit_idle (hA : P.Steady t A) (hs : P.Outside A s)
    (hidle : s.inTransaction (t, n) d = false) :
    wp (P.contract t) cx (Sqlite.commit (t, n) d : Sql δ φ ν μ ε Unit)
      (fun _ s' => P.Outside A s') s := by
  refine wp_commit (fun s' hrely hi _ _ => hs.rely hA hrely hi) fun s' hrely hi _ => ?_
  have hs' := hs.rely hA hrely hi
  have hnot : s'.inTransaction (t, n) d ≠ true := by
    intro hin
    rw [hrely.unheld n d hin] at hidle
    cases hidle
  have hsame : s'.committed (t, n) d = s' := if_neg hnot
  rw [hsame]
  exact ⟨fun f hf => absurd hf.inTransaction hnot, hs', fun _ => hs'⟩

theorem Outside.query (hA : P.Steady t A) {q : φ → Except ε α} (hs : P.Outside A s) :
    wp (P.contract t) cx (Sqlite.query (t, n) d q : Sql δ φ ν μ ε α)
      (fun _ s' => P.Outside A s') s :=
  wp_query (fun _ hrely hi _ _ => hs.rely hA hrely hi) fun _ hrely hi _ => hs.rely hA hrely hi

theorem Outside.assign {g : Store δ φ ν μ → μ} (hs : P.Outside A s)
    (hallowed : P.remembers t s.world (g s)) (hB : B (s.world.remember t (g s))) :
    wp (P.contract t) cx (Coro.update fun s => s.assigned t (g s) : Sql δ φ ν μ ε Unit)
      (fun r s' => P.Outside B s' ∧ r = .ok ()) s :=
  ⟨.assign s (g s) hallowed, ⟨P.remembers_inv t _ _ hs.inv hallowed, hB⟩, rfl⟩

end Policy
end Sqlite
end CryoDaq
