import Mathlib.Data.List.Induction
import Mathlib.Data.List.TakeDrop

/-!
# Replaying the tail of a log

A log of updates overwrites the cells of a table: an update names a key and
gives its new content, or `none` to empty the cell.

**Replaying again.**  A cell ends with what the last update of its key gives,
so replaying a log over the table it led to changes nothing.  More generally
the tail of a log may be replayed from any point at or before the state it is
replayed over: `overlay_tail`.
-/

namespace CryoDaq
namespace Async

variable {κ ν : Type} [DecidableEq κ]

def overwrite (table : κ → Option ν) (u : κ × Option ν) : κ → Option ν :=
  fun k => if k = u.1 then u.2 else table k

/-- The updates of a log, from the first to the last. -/
def overlay (table : κ → Option ν) (log : List (κ × Option ν)) : κ → Option ν :=
  log.foldl overwrite table

@[simp] theorem overlay_append (table : κ → Option ν) (log log' : List (κ × Option ν)) :
    overlay table (log ++ log') = overlay (overlay table log) log' :=
  List.foldl_append

theorem overlay_concat (table : κ → Option ν) (log : List (κ × Option ν))
    (u : κ × Option ν) :
    overlay table (log ++ [u]) = overwrite (overlay table log) u := by
  rw [overlay_append]
  rfl

theorem overlay_congr {table table' : κ → Option ν} {log : List (κ × Option ν)} {k : κ}
    (h : k ∈ log.map Prod.fst ∨ table k = table' k) :
    overlay table log k = overlay table' log k := by
  induction log using List.reverseRecOn with
  | nil => exact h.resolve_left List.not_mem_nil
  | append_singleton log u ih =>
      rw [overlay_concat, overlay_concat]
      by_cases hk : k = u.1
      · rw [overwrite, overwrite, if_pos hk, if_pos hk]
      · rw [overwrite, overwrite, if_neg hk, if_neg hk]
        refine ih (h.imp_left fun hmem => ?_)
        rw [List.map_append, List.mem_append] at hmem
        exact hmem.resolve_right fun hlast => hk (List.mem_singleton.mp hlast)

theorem overlay_of_not_mem {table : κ → Option ν} {log : List (κ × Option ν)} {k : κ}
    (h : k ∉ log.map Prod.fst) : overlay table log k = table k := by
  induction log using List.reverseRecOn with
  | nil => rfl
  | append_singleton log u ih =>
      rw [List.map_append, List.mem_append] at h
      have hk : k ≠ u.1 := fun hk => h (.inr (List.mem_singleton.mpr hk))
      rw [overlay_concat, overwrite, if_neg hk]
      exact ih fun hmem => h (.inl hmem)

@[simp] theorem overlay_overlay (table : κ → Option ν) (log : List (κ × Option ν)) :
    overlay (overlay table log) log = overlay table log := by
  funext k
  by_cases hk : k ∈ log.map Prod.fst
  · exact overlay_congr (.inl hk)
  · exact overlay_of_not_mem hk

theorem overlay_replay (table : κ → Option ν) (a b c : List (κ × Option ν)) :
    overlay (overlay table (a ++ b)) (b ++ c) = overlay table (a ++ b ++ c) := by
  simp only [overlay_append, overlay_overlay]

theorem overlay_tail (table : κ → Option ν) (log : List (κ × Option ν)) {c k d : ℕ}
    (hck : c ≤ k) (hkd : k ≤ d) :
    overlay (overlay table (log.take k)) ((log.take d).drop c) =
      overlay table (log.take d) := by
  have hk : log.take k = log.take c ++ (log.take k).drop c := by
    conv_lhs => rw [← List.take_append_drop c (log.take k)]
    rw [List.take_take, Nat.min_eq_left hck]
  have hd : log.take d = log.take k ++ (log.take d).drop k := by
    conv_lhs => rw [← List.take_append_drop k (log.take d)]
    rw [List.take_take, Nat.min_eq_left hkd]
  have hwhole : log.take d = log.take c ++ (log.take k).drop c ++ (log.take d).drop k := by
    rw [← hk, ← hd]
  have htail : (log.take d).drop c = (log.take k).drop c ++ (log.take d).drop k := by
    rw [List.drop_take, List.drop_take, List.drop_take, ← Nat.add_sub_of_le hck,
      ← List.drop_drop, Nat.add_sub_cancel_left, ← List.take_add]
    congr 1
    omega
  rw [hk, htail, overlay_replay, ← hwhole]

end Async
end CryoDaq
