import CryoDaq.Python.Dict
import Mathlib.Algebra.BigOperators.Group.List.Basic
import Mathlib.Algebra.Ring.Int.Defs
import Mathlib.Data.Finset.Card
import Mathlib.Data.Finset.Dedup

/-!
# Totals of dictionaries

The sum of a weight of the entries, and what an assignment and a deletion do to it.
-/

namespace CryoDaq
namespace Dict

variable {κ ν : Type} (f : κ → ν → ℤ)

def total (d : Dict κ ν) : ℤ := (d.entries.map fun p => f p.1 p.2).sum

theorem total_values (g : ν → ℤ) (d : Dict κ ν) :
    (d.total fun _ v => g v) = (d.values.map g).sum := by
  rw [total, values, List.map_map]
  rfl

variable [DecidableEq κ]

theorem total_congr {f g : κ → ν → ℤ} {d : Dict κ ν}
    (h : ∀ k v, d.get? k = some v → f k v = g k v) : d.total f = d.total g := by
  refine congrArg List.sum (List.map_congr_left fun p hp => ?_)
  exact h p.1 p.2 ((d.mem_entries p.1 p.2).mp hp)

theorem sum_setEntry (k : κ) (v : ν) (l : List (κ × ν)) :
    ((setEntry k v l).map fun p => f p.1 p.2).sum =
      (l.map fun p => f p.1 p.2).sum - ((l.lookup k).map (f k)).getD 0 + f k v := by
  induction l with
  | nil => simp [setEntry]
  | cons p rest ih =>
      by_cases hp : p.1 = k
      · rw [setEntry, if_pos hp, lookup_cons_ite, if_pos hp.symm, List.map_cons, List.map_cons,
          List.sum_cons, List.sum_cons, Option.map_some, Option.getD_some, hp]
        change f k v + _ = _
        omega
      · rw [setEntry, if_neg hp, lookup_cons_ite, if_neg (Ne.symm hp), List.map_cons,
          List.map_cons, List.sum_cons, List.sum_cons, ih]
        omega

/-- An assignment takes the weight of the value that was there and adds that of the new one. -/
theorem total_set (d : Dict κ ν) (k : κ) (v : ν) :
    (d.set k v).total f = d.total f - ((d.get? k).map (f k)).getD 0 + f k v :=
  sum_setEntry f k v d.entries

theorem sum_filter_ne {k : κ} : ∀ {l : List (κ × ν)}, (l.map Prod.fst).Nodup →
    ((l.filter fun p => p.1 ≠ k).map fun p => f p.1 p.2).sum =
      (l.map fun p => f p.1 p.2).sum - ((l.lookup k).map (f k)).getD 0
  | [], _ => by simp
  | p :: rest, h => by
      rw [List.map_cons, List.nodup_cons] at h
      by_cases hp : p.1 = k
      · have hkeep : (rest.filter fun q => q.1 ≠ k) = rest := by
          refine List.filter_eq_self.mpr fun q hq => decide_eq_true fun heq => h.1 ?_
          exact List.mem_map.mpr ⟨q, hq, heq.trans hp.symm⟩
        rw [List.filter_cons_of_neg (by simpa using hp), hkeep, lookup_cons_ite, if_pos hp.symm,
          List.map_cons, List.sum_cons, Option.map_some, Option.getD_some, hp]
        omega
      · rw [List.filter_cons_of_pos (by simpa using hp), lookup_cons_ite, if_neg (Ne.symm hp),
          List.map_cons, List.map_cons, List.sum_cons, List.sum_cons, sum_filter_ne h.2]
        omega

theorem total_erase (d : Dict κ ν) (k : κ) :
    (d.erase k).total f = d.total f - ((d.get? k).map (f k)).getD 0 :=
  sum_filter_ne f d.nodup

omit [DecidableEq κ] in
theorem nodup_keys (d : Dict κ ν) : d.keys.Nodup := d.nodup

theorem sum_indicator {α : Type} (P : α → Prop) [DecidablePred P] (l : List α) :
    (l.map fun a => if P a then (1 : ℤ) else 0).sum = ((l.filter fun a => P a).length : ℤ) := by
  induction l with
  | nil => rfl
  | cons a rest ih =>
      by_cases ha : P a
      · rw [List.map_cons, List.filter_cons_of_pos (by simpa using ha), List.sum_cons, ih,
          if_pos ha, List.length_cons]
        omega
      · rw [List.map_cons, List.filter_cons_of_neg (by simpa using ha), List.sum_cons, ih,
          if_neg ha]
        omega

theorem card_filter_keys (d : Dict κ ν) (P : κ → Prop) [DecidablePred P] :
    ((d.keys.toFinset.filter P).card : ℤ) = d.total fun k _ => if P k then 1 else 0 := by
  have hfilter : d.keys.toFinset.filter P = (d.keys.filter fun k => P k).toFinset := by
    ext k
    rw [Finset.mem_filter, List.mem_toFinset, List.mem_toFinset, List.mem_filter,
      decide_eq_true_iff]
  rw [hfilter, List.toFinset_card_of_nodup (d.nodup_keys.filter _), ← sum_indicator, keys,
    List.map_map]
  rfl

theorem card_keys (d : Dict κ ν) : d.keys.toFinset.card = d.entries.length := by
  rw [List.toFinset_card_of_nodup d.nodup_keys, keys, List.length_map]

end Dict
end CryoDaq
