import Mathlib.Data.List.Sort

/-!
# Heaps of `heapq`

A list that `heapq` keeps as a heap, by the order in which `heappop` gives its items.

**Lazy deletion.**  `popLive` pops until an item passes a test: the items before it are gone, the
item is the least of those that pass.
-/

namespace CryoDaq

/-- The items of a heap, least first. -/
structure Heapq (α : Type) [LinearOrder α] where
  items : List α
  sorted : items.Pairwise (· ≤ ·)

namespace Heapq

variable {α : Type} [LinearOrder α]

def empty : Heapq α := ⟨[], .nil⟩

/-- `heapq.heappush` -/
def push (h : Heapq α) (a : α) : Heapq α :=
  ⟨h.items.orderedInsert (· ≤ ·) a, h.sorted.orderedInsert a h.items⟩

def heapify (l : List α) : Heapq α :=
  ⟨l.insertionSort (· ≤ ·), List.pairwise_insertionSort (· ≤ ·) l⟩

theorem mem_push {h : Heapq α} {a b : α} : b ∈ (h.push a).items ↔ b = a ∨ b ∈ h.items :=
  List.mem_orderedInsert (· ≤ ·)

theorem mem_heapify {l : List α} {a : α} : a ∈ (heapify l).items ↔ a ∈ l :=
  List.mem_insertionSort (· ≤ ·)

section Live

variable (live : α → Bool)

def afterLive : List α → List α
  | [] => []
  | a :: rest => if live a then rest else afterLive rest

omit [LinearOrder α] in
theorem afterLive_suffix : ∀ l : List α, afterLive live l <:+ l
  | [] => List.suffix_refl _
  | a :: rest => by
      rw [afterLive]
      split
      · exact List.suffix_cons a rest
      · exact (afterLive_suffix rest).trans (List.suffix_cons a rest)

/-- `heappop` until an item is live. -/
def popLive (h : Heapq α) : Option α × Heapq α :=
  (h.items.find? live,
    ⟨afterLive live h.items, h.sorted.sublist (afterLive_suffix live h.items).sublist⟩)

variable {live} {h : Heapq α} {a b : α}

theorem popLive_mem (hpop : (h.popLive live).1 = some a) : a ∈ h.items ∧ live a = true :=
  ⟨List.mem_of_find?_eq_some hpop, List.find?_some hpop⟩

theorem popLive_exists (hb : b ∈ h.items) (hlive : live b = true) :
    ∃ a, (h.popLive live).1 = some a := by
  cases hpop : (h.popLive live).1 with
  | some a => exact ⟨a, rfl⟩
  | none => exact absurd hlive (List.find?_eq_none.mp hpop b hb)

theorem popLive_le (hpop : (h.popLive live).1 = some a) (hb : b ∈ h.items)
    (hlive : live b = true) : a ≤ b := by
  obtain ⟨hmatch, before, after, hitems, hbefore⟩ := List.find?_eq_some_iff_append.mp hpop
  have hsorted := h.sorted
  rw [hitems] at hsorted hb
  rcases List.mem_append.mp hb with hb | hb
  · have hdead := hbefore b hb
    rw [hlive] at hdead
    cases hdead
  · rcases List.mem_cons.mp hb with rfl | hb
    · exact le_rfl
    · exact (List.pairwise_cons.mp (List.pairwise_append.mp hsorted).2.1).1 b hb

theorem mem_of_afterLive (hb : b ∈ (h.popLive live).2.items) : b ∈ h.items :=
  (afterLive_suffix live h.items).mem hb

omit [LinearOrder α] in
theorem mem_afterLive_list : ∀ {l : List α}, l.find? live = some a → b ∈ l → live b = true →
    b ≠ a → b ∈ afterLive live l
  | [], hfind, _, _, _ => by cases hfind
  | c :: rest, hfind, hb, hlive, hne => by
      rw [afterLive]
      by_cases hc : live c = true
      · rw [List.find?_cons_of_pos hc] at hfind
        rw [if_pos hc]
        rcases List.mem_cons.mp hb with rfl | hb
        · exact absurd (Option.some.inj hfind) hne
        · exact hb
      · rw [List.find?_cons_of_neg hc] at hfind
        rw [if_neg hc]
        rcases List.mem_cons.mp hb with rfl | hb
        · exact absurd hlive hc
        · exact mem_afterLive_list hfind hb hlive hne

theorem mem_afterLive (hpop : (h.popLive live).1 = some a) (hb : b ∈ h.items)
    (hlive : live b = true) (hne : b ≠ a) : b ∈ (h.popLive live).2.items :=
  mem_afterLive_list hpop hb hlive hne

end Live

end Heapq
end CryoDaq
