import CryoDaq.Sqlite.Store

/-!
# Rules for transactions

A `Policy` says what the tasks may commit, note and remember, and what each of them relies on.  The
locks of the store do the rest: while a connection is in a write transaction nobody else changes its
file or what it sees of it.

**Calls.**  Each call has one rule.  The caller states what holds when the call is refused, and what
holds when it has its effect, whether it raises afterwards or not.

**Runs.**  `reachable_inv`: when every program keeps the policy, its invariant holds after every
schedule of calls, answers and endings of tasks; `reachable_grows` is the same for what no step
undoes.
-/

namespace CryoDaq
namespace Sqlite

open Async

variable {δ φ ν μ ε α : Type} [DecidableEq δ]

/-- What tasks may do to the world, and what they rely on. -/
structure Policy (δ φ ν μ : Type) [DecidableEq δ] where
  inv : World δ φ ν μ → Prop
  /-- What a task may commit to a file. -/
  commits : ℕ → World δ φ ν μ → δ → φ → Prop
  notes : ℕ → World δ φ ν μ → ν → Prop
  remembers : ℕ → World δ φ ν μ → μ → Prop
  /-- What others may do to the world of a task. -/
  stable : ℕ → World δ φ ν μ → World δ φ ν μ → Prop
  stable_refl : ∀ t w, stable t w w
  stable_trans : ∀ t w w' w'', stable t w w' → stable t w' w'' → stable t w w''
  commits_inv : ∀ t w d f, inv w → commits t w d f → inv (w.put d f)
  notes_inv : ∀ t w n, inv w → notes t w n → inv (w.record n)
  remembers_inv : ∀ t w m, inv w → remembers t w m → inv (w.remember t m)
  commits_stable : ∀ t u w d f, t ≠ u → inv w → commits t w d f → stable u w (w.put d f)
  notes_stable : ∀ t u w n, t ≠ u → inv w → notes t w n → stable u w (w.record n)
  remembers_stable : ∀ t u w m, t ≠ u → inv w → remembers t w m → stable u w (w.remember t m)

namespace Policy

variable (P : Policy δ φ ν μ)

inductive Guar (t : ℕ) : Store δ φ ν μ → Store δ φ ν μ → Prop
  | begin (s : Store δ φ ν μ) (n : ℕ) (d : δ) (hfree : s.writing d = none) :
      Guar t s (s.begun (t, n) d)
  | write (s : Store δ φ ν μ) (n : ℕ) (d : δ) (f : φ) : Guar t s (s.wrote (t, n) d f)
  | commit (s : Store δ φ ν μ) (n : ℕ) (d : δ)
      (hcommit : ∀ f, s.Holds (t, n) d f → P.commits t s.world d f) :
      Guar t s (s.committed (t, n) d)
  | rollback (s : Store δ φ ν μ) (n : ℕ) (d : δ) : Guar t s (s.rolledBack (t, n) d)
  | note (s : Store δ φ ν μ) (n : ν) (hnote : P.notes t s.world n) : Guar t s (s.noted n)
  | assign (s : Store δ φ ν μ) (m : μ) (hassign : P.remembers t s.world m) :
      Guar t s (s.assigned t m)
  | refl (s : Store δ φ ν μ) : Guar t s s

/-- What happens to the store of a task while it waits. -/
structure Rely (t : ℕ) (s s' : Store δ φ ν μ) : Prop where
  world : P.stable t s.world s'.world
  dead : t ∉ s'.dead → t ∉ s.dead
  held : t ∉ s'.dead → ∀ n d f, s.Holds (t, n) d f →
    s'.Holds (t, n) d f ∧ s'.world.files d = s.world.files d
  unheld : ∀ n d, s'.inTransaction (t, n) d = true → s.inTransaction (t, n) d = true

variable {P} {t : ℕ} {s s' : Store δ φ ν μ}

theorem Rely.refl (t : ℕ) (s : Store δ φ ν μ) : P.Rely t s s :=
  ⟨P.stable_refl t s.world, id, fun _ _ _ _ h => ⟨h, rfl⟩, fun _ _ h => h⟩

theorem Rely.trans {s'' : Store δ φ ν μ} (h : P.Rely t s s') (h' : P.Rely t s' s'') :
    P.Rely t s s'' where
  world := P.stable_trans t _ _ _ h.world h'.world
  dead := fun hdead => h.dead (h'.dead hdead)
  held := by
    intro hdead n d f hf
    obtain ⟨hf', hfile⟩ := h.held (h'.dead hdead) n d f hf
    obtain ⟨hf'', hfile'⟩ := h'.held hdead n d f hf'
    exact ⟨hf'', hfile'.trans hfile⟩
  unheld := fun n d hd => h.unheld n d (h'.unheld n d hd)

theorem Guar.inv (h : P.Guar t s s') (hi : P.inv s.world) : P.inv s'.world := by
  cases h with
  | begin => exact hi
  | write n d f =>
      rw [Store.wrote_world]
      exact hi
  | commit n d hcommit =>
      by_cases hin : s.inTransaction (t, n) d = true
      · obtain ⟨f, hf⟩ := Store.exists_holds hin
        rw [hf.committed_world]
        exact P.commits_inv t _ d f hi (hcommit f hf)
      · rw [Store.committed, if_neg hin]
        exact hi
  | rollback n d =>
      rw [Store.rolledBack_world]
      exact hi
  | note n hnote => exact P.notes_inv t _ n hi hnote
  | assign m hassign => exact P.remembers_inv t _ m hi hassign
  | refl => exact hi

omit [DecidableEq δ] in
theorem inTransaction_other {u n m : ℕ} {d : δ} (htu : t ≠ u)
    (h : s.inTransaction (t, n) d = true) : s.inTransaction (u, m) d = false := by
  obtain ⟨f, hf⟩ := Store.exists_holds h
  rw [Store.Holds] at hf
  simp [Store.inTransaction, hf, htu]

theorem Rely.of_foreign {u : ℕ} (hworld : P.stable u s.world s'.world) (hdead : s'.dead = s.dead)
    (h : ∀ d, (s'.writing d = s.writing d ∧ s'.world.files d = s.world.files d) ∨
      ∀ n, s.inTransaction (u, n) d = false ∧ s'.inTransaction (u, n) d = false) :
    P.Rely u s s' where
  world := hworld
  dead := fun ht => hdead ▸ ht
  held := by
    intro _ n d f hf
    rcases h d with ⟨hwriting, hfile⟩ | hforeign
    · exact ⟨hwriting.trans hf, hfile⟩
    · have hin := hf.inTransaction
      rw [(hforeign n).1] at hin
      cases hin
  unheld := by
    intro n d hd
    rcases h d with ⟨hwriting, _⟩ | hforeign
    · rw [Store.inTransaction, ← hwriting]
      exact hd
    · rw [(hforeign n).2] at hd
      cases hd

theorem Guar.rely {u : ℕ} (htu : t ≠ u) (hi : P.inv s.world) (h : P.Guar t s s') :
    P.Rely u s s' := by
  cases h with
  | begin n d hfree =>
      refine .of_foreign (P.stable_refl u _) rfl fun d' => ?_
      by_cases hd : d' = d
      · subst hd
        refine .inr fun m => ⟨by simp [Store.inTransaction, hfree], ?_⟩
        exact inTransaction_other htu (Store.holds_begun (t, n) d' s).inTransaction
      · exact .inl ⟨Function.update_of_ne hd .., rfl⟩
  | write n d f =>
      by_cases hin : s.inTransaction (t, n) d = true
      · refine .of_foreign ?_ ?_ fun d' => ?_
        · rw [Store.wrote_world]
          exact P.stable_refl u _
        · rw [Store.wrote, if_pos hin]
        · by_cases hd : d' = d
          · subst hd
            obtain ⟨g, hg⟩ := Store.exists_holds hin
            exact .inr fun m => ⟨inTransaction_other htu hin,
              inTransaction_other htu (hg.wrote f).inTransaction⟩
          · rw [Store.wrote, if_pos hin]
            exact .inl ⟨Function.update_of_ne hd .., rfl⟩
      · rw [Store.wrote, if_neg hin]
        exact .refl u s
  | commit n d hcommit =>
      by_cases hin : s.inTransaction (t, n) d = true
      · obtain ⟨f, hf⟩ := Store.exists_holds hin
        refine .of_foreign ?_ ?_ fun d' => ?_
        · rw [hf.committed_world]
          exact P.commits_stable t u _ d f htu hi (hcommit f hf)
        · rw [Store.committed, if_pos hin]
        · by_cases hd : d' = d
          · subst hd
            refine .inr fun m => ⟨inTransaction_other htu hin, ?_⟩
            rw [Store.committed, if_pos hin]
            simp [Store.inTransaction]
          · rw [Store.committed, if_pos hin]
            exact .inl ⟨Function.update_of_ne hd .., World.put_files_of_ne _ _ hd⟩
      · rw [Store.committed, if_neg hin]
        exact .refl u s
  | rollback n d =>
      by_cases hin : s.inTransaction (t, n) d = true
      · refine .of_foreign ?_ ?_ fun d' => ?_
        · rw [Store.rolledBack_world]
          exact P.stable_refl u _
        · rw [Store.rolledBack, if_pos hin]
        · by_cases hd : d' = d
          · subst hd
            refine .inr fun m => ⟨inTransaction_other htu hin, ?_⟩
            rw [Store.rolledBack, if_pos hin]
            simp [Store.inTransaction]
          · rw [Store.rolledBack, if_pos hin]
            exact .inl ⟨Function.update_of_ne hd .., rfl⟩
      · rw [Store.rolledBack, if_neg hin]
        exact .refl u s
  | note n hnote =>
      exact .of_foreign (P.notes_stable t u _ n htu hi hnote) rfl fun _ => .inl ⟨rfl, rfl⟩
  | assign m hassign =>
      exact .of_foreign (P.remembers_stable t u _ m htu hi hassign) rfl fun _ => .inl ⟨rfl, rfl⟩
  | refl => exact .refl u s

theorem Rely.ended (t u : ℕ) (s : Store δ φ ν μ) : P.Rely t s (s.ended u) where
  world := P.stable_refl t _
  dead := fun h hs => h (List.mem_cons_of_mem u hs)
  held := by
    intro halive n d f hf
    have hne : t ≠ u := fun heq => halive (heq ▸ List.mem_cons_self ..)
    refine ⟨?_, rfl⟩
    rw [Store.Holds] at hf ⊢
    simp [Store.ended, hf, hne]
  unheld := by
    intro n d h
    obtain ⟨f, hf⟩ := Store.exists_holds h
    rw [Store.Holds, Store.ended, Option.filter_eq_some_iff] at hf
    exact Store.Holds.inTransaction hf.1

variable (P) in
def contract (t : ℕ) : Contract (Store δ φ ν μ) (Wait δ) (Answer ε) where
  enabled := enabled
  inv := fun s => P.inv s.world
  rely := P.Rely t
  guar := P.Guar t
  parked := fun _ _ => True

variable {n : ℕ} {d : δ} {cx : Bool}

theorem answered {needs : Needs} {r : Wake (Answer ε)} {s' : Store δ φ ν μ}
    (h : (P.contract (ε := ε) t).resumable true ⟨(t, n), d, needs⟩ r s') :
    t ∉ s'.dead ∧ ((∃ e, r.value = .refused e) ∨ ready s' ⟨(t, n), d, needs⟩ = true) := by
  have henabled : enabled ⟨(t, n), d, needs⟩ r.value s' = true := by
    rcases h with h | ⟨h, _⟩
    · exact h
    · cases h
  obtain ⟨halive, hanswer⟩ := Bool.and_eq_true_iff.mp henabled
  refine ⟨of_decide_eq_true halive, ?_⟩
  cases hr : r.value with
  | refused e => exact .inl ⟨e, rfl⟩
  | done =>
      rw [hr] at hanswer
      exact .inr hanswer
  | lost e =>
      rw [hr] at hanswer
      exact .inr hanswer

theorem wp_call {needs : Needs} {effect : Store δ φ ν μ → Store δ φ ν μ}
    {Q : Except ε Unit → Store δ φ ν μ → Prop}
    (hrefused : ∀ s', P.Rely t s s' → P.inv s'.world → t ∉ s'.dead → ∀ e, Q (.error e) s')
    (heffect : ∀ s', P.Rely t s s' → P.inv s'.world → t ∉ s'.dead →
      ready s' ⟨(t, n), d, needs⟩ = true →
        P.Guar t s' (effect s') ∧ Q (.ok ()) (effect s') ∧ ∀ e, Q (.error e) (effect s')) :
    wp (P.contract t) cx (call (t, n) d needs effect : Sql δ φ ν μ ε Unit) Q s := by
  refine ⟨trivial, fun s' r hrely hinv hres _ => ?_⟩
  obtain ⟨halive, hready⟩ := answered hres
  cases hr : r.value with
  | refused e =>
      simp only [hr]
      exact hrefused s' hrely hinv halive e
  | done =>
      obtain ⟨hguar, hok, _⟩ := heffect s' hrely hinv halive (hready.resolve_left (by simp [hr]))
      simp only [hr]
      exact ⟨hguar, hok⟩
  | lost e =>
      obtain ⟨hguar, _, herror⟩ := heffect s' hrely hinv halive
        (hready.resolve_left (by simp [hr]))
      simp only [hr]
      exact ⟨hguar, herror e⟩

theorem wp_touch {needs : Needs} {Q : Except ε Unit → Store δ φ ν μ → Prop}
    (h : ∀ s', P.Rely t s s' → P.inv s'.world → t ∉ s'.dead → ∀ r, Q r s') :
    wp (P.contract t) cx (touch (t, n) d needs : Sql δ φ ν μ ε Unit) Q s :=
  wp_call (fun s' hrely hinv halive _ => h s' hrely hinv halive _)
    fun s' hrely hinv halive _ => ⟨.refl s', h s' hrely hinv halive _,
      fun _ => h s' hrely hinv halive _⟩

theorem wp_hang {e : ε} {Q : Except ε α → Store δ φ ν μ → Prop} :
    wp (P.contract t) cx (hang (t, n) d e : Sql δ φ ν μ ε α) Q s := by
  refine ⟨trivial, fun s' r _ _ hres _ => ?_⟩
  rcases hres with h | ⟨h, _⟩
  · cases hr : r.value <;> simp [contract, enabled, ready, hr] at h
  · cases h

theorem wp_query {q : φ → Except ε α} {Q : Except ε α → Store δ φ ν μ → Prop}
    (hraised : ∀ s', P.Rely t s s' → P.inv s'.world → t ∉ s'.dead → ∀ e, Q (.error e) s')
    (hread : ∀ s', P.Rely t s s' → P.inv s'.world → t ∉ s'.dead →
      Q (q (s'.seen (t, n) d)) s') :
    wp (P.contract t) cx (query (t, n) d q : Sql δ φ ν μ ε α) Q s := by
  refine ⟨trivial, fun s' r hrely hinv hres _ => ?_⟩
  obtain ⟨halive, _⟩ := answered hres
  cases hr : r.value with
  | refused e =>
      simp only [hr]
      exact hraised s' hrely hinv halive e
  | done =>
      simp only [hr, wp, wp_ofExcept]
      exact hread s' hrely hinv halive
  | lost e =>
      simp only [hr]
      exact hraised s' hrely hinv halive e

theorem wp_execute {q : φ → Except ε φ} {Q : Except ε Unit → Store δ φ ν μ → Prop}
    (hrefused : ∀ s', P.Rely t s s' → P.inv s'.world → t ∉ s'.dead → ∀ e, Q (.error e) s')
    (hwrote : ∀ s' f, P.Rely t s s' → P.inv s'.world → t ∉ s'.dead →
      q (s'.seen (t, n) d) = .ok f →
        Q (.ok ()) (s'.wrote (t, n) d f) ∧ ∀ e, Q (.error e) (s'.wrote (t, n) d f)) :
    wp (P.contract t) cx (execute (t, n) d q : Sql δ φ ν μ ε Unit) Q s := by
  refine ⟨trivial, fun s' r hrely hinv hres _ => ?_⟩
  obtain ⟨halive, _⟩ := answered hres
  cases hr : r.value with
  | refused e =>
      simp only [hr]
      exact hrefused s' hrely hinv halive e
  | done =>
      simp only [hr, wp]
      cases hq : q (s'.seen (t, n) d) with
      | error e => exact hrefused s' hrely hinv halive e
      | ok f => exact ⟨.write s' n d f, (hwrote s' f hrely hinv halive hq).1⟩
  | lost e =>
      simp only [hr, wp]
      cases hq : q (s'.seen (t, n) d) with
      | error e => exact hrefused s' hrely hinv halive e
      | ok f => exact ⟨.write s' n d f, (hwrote s' f hrely hinv halive hq).2 e⟩

theorem wp_begin {Q : Except ε Unit → Store δ φ ν μ → Prop}
    (hrefused : ∀ s', P.Rely t s s' → P.inv s'.world → t ∉ s'.dead → ∀ e, Q (.error e) s')
    (hbegun : ∀ s', P.Rely t s s' → P.inv s'.world → t ∉ s'.dead →
      Q (.ok ()) (s'.begun (t, n) d) ∧ ∀ e, Q (.error e) (s'.begun (t, n) d)) :
    wp (P.contract t) cx (begin (t, n) d : Sql δ φ ν μ ε Unit) Q s := by
  refine wp_call hrefused fun s' hrely hinv halive hready => ?_
  have hfree : s'.writing d = none := Option.isNone_iff_eq_none.mp hready
  exact ⟨.begin s' n d hfree, hbegun s' hrely hinv halive⟩

theorem wp_commit {Q : Except ε Unit → Store δ φ ν μ → Prop}
    (hrefused : ∀ s', P.Rely t s s' → P.inv s'.world → t ∉ s'.dead → ∀ e, Q (.error e) s')
    (hcommit : ∀ s', P.Rely t s s' → P.inv s'.world → t ∉ s'.dead →
      (∀ f, s'.Holds (t, n) d f → P.commits t s'.world d f) ∧
        Q (.ok ()) (s'.committed (t, n) d) ∧ ∀ e, Q (.error e) (s'.committed (t, n) d)) :
    wp (P.contract t) cx (commit (t, n) d : Sql δ φ ν μ ε Unit) Q s := by
  refine wp_call hrefused fun s' hrely hinv halive _ => ?_
  obtain ⟨hallowed, hq⟩ := hcommit s' hrely hinv halive
  exact ⟨.commit s' n d hallowed, hq⟩

theorem wp_rollback {Q : Except ε Unit → Store δ φ ν μ → Prop}
    (hrefused : ∀ s', P.Rely t s s' → P.inv s'.world → t ∉ s'.dead → ∀ e, Q (.error e) s')
    (hrolled : ∀ s', P.Rely t s s' → P.inv s'.world → t ∉ s'.dead →
      Q (.ok ()) (s'.rolledBack (t, n) d) ∧ ∀ e, Q (.error e) (s'.rolledBack (t, n) d)) :
    wp (P.contract t) cx (rollback (t, n) d : Sql δ φ ν μ ε Unit) Q s :=
  wp_call hrefused fun s' hrely hinv halive _ => ⟨.rollback s' n d, hrolled s' hrely hinv halive⟩

end Policy

/-- Tasks that run their programs; the environment may end any of them. -/
def tasks (program : ℕ → Sql δ φ ν μ ε Unit) :
    System (Store δ φ ν μ) (Wait δ) (Answer ε) ε Unit ℕ where
  enabled := enabled
  launch := fun _ s => some (s, program)
  environment := fun t s => some (s.ended t)

namespace Policy

variable (P : Policy δ φ ν μ) {program : ℕ → Sql δ φ ν μ ε Unit}

def Kept (program : ℕ → Sql δ φ ν μ ε Unit) : Prop :=
  ∀ t s, P.inv s.world → wp (P.contract t) true (program t) (fun _ _ => True) s

def discipline (program : ℕ → Sql δ φ ν μ ε Unit) : Discipline (tasks program) where
  inv := fun s => P.inv s.world
  rely := P.Rely
  guar := P.Guar
  parked := fun _ _ _ => True
  post := fun _ _ => True
  rely_refl := .refl
  rely_trans := fun _ _ _ _ => .trans
  guar_inv := fun _ _ _ hi h => h.inv hi
  guar_rely := fun _ _ _ _ htu hi h => h.rely htu hi
  parked_stable := fun _ _ _ _ _ _ _ => trivial
  post_stable := fun _ _ _ _ _ _ => trivial
  environment_inv := by
    intro t s s' h hi
    cases h
    exact hi
  environment_rely := by
    intro u t s s' h _
    cases h
    exact .ended t u s
  launch_inv := by
    intro _ s s' c h hi
    cases h
    exact hi
  launch_rely := by
    intro _ t s s' c h _
    cases h
    exact .refl t s

variable {P} {w : World δ φ ν μ} {p q : Pool (Store δ φ ν μ) (Wait δ) (Answer ε) ε}

theorem Kept.discipline (h : P.Kept program) : (P.discipline program).Kept := by
  intro _ s s' c t hl hi _
  cases hl
  exact h t s hi

theorem reachable_sound (hkept : P.Kept program) (hi : P.inv w)
    (h : (tasks program).Reachable (.opening w) p) : (P.discipline program).Sound p := by
  have hopening : (P.discipline program).inv (.opening w) := hi
  exact Discipline.reachable_sound hkept.discipline hopening (fun _ => trivial) h

theorem reachable_inv (hkept : P.Kept program) (hi : P.inv w)
    (h : (tasks program).Reachable (.opening w) p) : P.inv p.state.world :=
  (reachable_sound hkept hi h).inv

theorem reachable_grows {R : World δ φ ν μ → World δ φ ν μ → Prop} (hrefl : ∀ w, R w w)
    (htrans : ∀ w w' w'', R w w' → R w' w'' → R w w'')
    (hcommits : ∀ t w d f, P.inv w → P.commits t w d f → R w (w.put d f))
    (hnotes : ∀ t w n, P.inv w → P.notes t w n → R w (w.record n))
    (hremembers : ∀ t w m, P.inv w → P.remembers t w m → R w (w.remember t m))
    (hkept : P.Kept program) (hp : (P.discipline program).Sound p)
    (moves : List (Move (Answer ε) Unit ℕ)) (h : (tasks program).replay p moves = some q) :
    R p.state.world q.state.world := by
  have hact : ∀ s s', P.inv s.world → (P.discipline program).Act s s' → R s.world s'.world := by
    intro s s' hi hstep
    cases hstep with
    | task t hguar =>
        cases hguar with
        | begin => exact hrefl _
        | write n d f =>
            rw [Store.wrote_world]
            exact hrefl _
        | commit n d hcommit =>
            by_cases hin : s.inTransaction (t, n) d = true
            · obtain ⟨f, hf⟩ := Store.exists_holds hin
              rw [hf.committed_world]
              exact hcommits t _ d f hi (hcommit f hf)
            · rw [Store.committed, if_neg hin]
              exact hrefl _
        | rollback n d =>
            rw [Store.rolledBack_world]
            exact hrefl _
        | note n hnote => exact hnotes t _ n hi hnote
        | assign m hassign => exact hremembers t _ m hi hassign
        | refl => exact hrefl _
    | environment t he =>
        cases he
        exact hrefl _
    | launch i c hl =>
        cases hl
        exact hrefl _
  have hchain : ∀ s s', P.inv s.world →
      Relation.ReflTransGen (P.discipline program).Act s s' → R s.world s'.world := by
    intro s s' hi hacts
    have hboth : P.inv s'.world ∧ R s.world s'.world := by
      induction hacts with
      | refl => exact ⟨hi, hrefl _⟩
      | @tail a b _ hab ih =>
          exact ⟨Discipline.act_inv hab ih.1, htrans _ _ _ ih.2 (hact a b ih.1 hab)⟩
    exact hboth.2
  induction moves generalizing p with
  | nil =>
      cases h
      exact hrefl _
  | cons m moves ih =>
      rw [System.replay] at h
      cases hm : (tasks program).step p m with
      | none =>
          rw [hm] at h
          cases h
      | some r =>
          rw [hm] at h
          obtain ⟨hacts, hr⟩ := Discipline.step_sound hkept.discipline hp hm
          exact htrans _ _ _ (hchain _ _ hp.inv hacts) (ih hr h)

end Policy

end Sqlite
end CryoDaq
