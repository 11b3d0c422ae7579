import Mathlib.Data.List.Infix
import Mathlib.Data.List.TakeWhile

/-!
# Journals

A journal is the list of what happened, newest entry first.  A statement about
a run becomes a statement about the journal it ends with.

**Added entries.**  `added old new` are the entries of `new` that are not yet
in `old`, when `old` is an earlier state of the same journal.

**Justified journals.**  `Justified J j` says that every entry of `j` stands in
the relation `J` to the entries older than it.
-/

namespace CryoDaq
namespace Async

variable {ν : Type}

/-- The entries added since an earlier journal. -/
def added (old new : List ν) : List ν := new.take (new.length - old.length)

@[simp] theorem added_self (j : List ν) : added j j = [] := by
  simp [added]

@[simp] theorem added_append (d j : List ν) : added j (d ++ j) = d := by
  simp [added]

@[simp] theorem added_cons (a : ν) (j : List ν) : added j (a :: j) = [a] :=
  added_append [a] j

@[simp] theorem added_cons₂ (a b : ν) (j : List ν) :
    added j (a :: b :: j) = [a, b] :=
  added_append [a, b] j

@[simp] theorem added_cons₃ (a b c : ν) (j : List ν) :
    added j (a :: b :: c :: j) = [a, b, c] :=
  added_append [a, b, c] j

theorem added_spec {old new : List ν} (h : old <:+ new) :
    added old new ++ old = new := by
  obtain ⟨d, rfl⟩ := h
  rw [added_append]

theorem added_trans {a b c : List ν} (hab : a <:+ b) (hbc : b <:+ c) :
    added a c = added b c ++ added a b := by
  obtain ⟨d, rfl⟩ := hab
  obtain ⟨e, rfl⟩ := hbc
  rw [added_append, added_append, ← List.append_assoc, added_append]

theorem mem_added_trans {a b c : List ν} (hab : a <:+ b) (hbc : b <:+ c)
    (n : ν) : n ∈ added a c ↔ n ∈ added b c ∨ n ∈ added a b := by
  rw [added_trans hab hbc, List.mem_append]

theorem split_at {j : List ν} {i : Nat} {n : ν}
    (h : j.reverse[i]? = some n) : ∃ newer older, j = newer ++ n :: older ∧
      j.take (j.length - i) = newer ++ [n] := by
  obtain ⟨hlt, hentry⟩ := List.getElem?_eq_some_iff.mp h
  have hsplit : j.reverse = j.reverse.take i ++ n :: j.reverse.drop (i + 1) := by
    rw [← hentry, List.cons_getElem_drop_succ, List.take_append_drop]
  obtain ⟨newer, older, rfl, hlen⟩ : ∃ newer older, j = newer ++ n :: older ∧
      older.length = i := by
    refine ⟨(j.reverse.drop (i + 1)).reverse, (j.reverse.take i).reverse,
      ?_, ?_⟩
    · simpa using congrArg List.reverse hsplit
    · rw [List.length_reverse, List.length_take]
      exact Nat.min_eq_left (Nat.le_of_lt hlt)
  refine ⟨newer, older, rfl, ?_⟩
  have htake : (newer ++ n :: older).length - i = newer.length + 1 := by
    rw [List.length_append, List.length_cons]
    omega
  rw [htake]
  simp [List.take_append]

/-- The entries newer than the newest one that satisfies `p`. -/
def sinceLast (p : ν → Bool) (j : List ν) : List ν :=
  j.takeWhile fun n => !p n

theorem sinceLast_cons_of (p : ν → Bool) {n : ν} (j : List ν)
    (h : p n = true) : sinceLast p (n :: j) = [] := by
  simp [sinceLast, h]

/-- Entries that do not satisfy `p` extend the part since the last one that
does. -/
theorem sinceLast_append (p : ν → Bool) {d : List ν} (j : List ν)
    (h : ∀ n ∈ d, p n = false) : sinceLast p (d ++ j) = d ++ sinceLast p j := by
  unfold sinceLast
  exact List.takeWhile_append_of_pos fun n hn => by simp [h n hn]

/-- An entry since the last `p` either came since the last `q`, or before a
`q` of its own since that `p`. -/
theorem sinceLast_or (p q : ν → Bool) {n : ν} (hn : q n = false) :
    ∀ j : List ν, n ∈ sinceLast p j → n ∈ sinceLast q j ∨
      ∃ newer m older, j = newer ++ m :: older ∧ q m = true ∧
        n ∈ sinceLast p older
  | [], h => Or.inl h
  | a :: j, h => by
      have hpa : p a = false := by
        by_contra hp
        rw [sinceLast_cons_of p j (by simpa using hp)] at h
        cases h
      have hsplit : ∀ r : ν → Bool, r a = false →
          sinceLast r (a :: j) = a :: sinceLast r j :=
        fun r hr => sinceLast_append r (d := [a]) j (by simpa using hr)
      rw [hsplit p hpa] at h
      cases hqa : q a with
      | true =>
          rcases List.mem_cons.mp h with rfl | h
          · rw [hn] at hqa
            cases hqa
          · exact Or.inr ⟨[], a, j, rfl, hqa, h⟩
      | false =>
          rw [hsplit q hqa]
          rcases List.mem_cons.mp h with rfl | h
          · exact Or.inl List.mem_cons_self
          · rcases sinceLast_or p q hn j h with h | ⟨newer, m, older, rfl, hm, h⟩
            · exact Or.inl (List.mem_cons_of_mem _ h)
            · exact Or.inr ⟨a :: newer, m, older, rfl, hm, h⟩

/-- Every entry stands in `J` to the older ones. -/
def Justified (J : ν → List ν → Prop) : List ν → Prop
  | [] => True
  | n :: older => J n older ∧ Justified J older

variable {J : ν → List ν → Prop}

instance decidableJustified [∀ n older, Decidable (J n older)] :
    ∀ j : List ν, Decidable (Justified J j)
  | [] => .isTrue trivial
  | n :: older =>
      @instDecidableAnd (J n older) (Justified J older) _
        (decidableJustified older)

theorem Justified.entry {newer older : List ν} {n : ν}
    (h : Justified J (newer ++ n :: older)) : J n older := by
  induction newer with
  | nil => exact h.1
  | cons m newer ih => exact ih h.2

theorem Justified.older {newer older : List ν}
    (h : Justified J (newer ++ older)) : Justified J older := by
  induction newer with
  | nil => exact h
  | cons m newer ih => exact ih h.2

end Async
end CryoDaq
