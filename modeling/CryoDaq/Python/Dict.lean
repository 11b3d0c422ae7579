import Mathlib.Data.List.Nodup

/-!
# Insertion-ordered dictionaries

A `Dict` is a list of entries with one entry for each key, in the order in
which the keys were inserted.  `set` replaces a value in place or appends a new
entry, `erase` drops one, and `get?` looks one up.

**Equality.**  Two dictionaries are the same when every key has the same value
in both; the order of their entries does not matter (`Dict.Same`).
-/

namespace CryoDaq

/-- A dictionary: its entries in order, one for each key. -/
structure Dict (κ ν : Type) where
  entries : List (κ × ν)
  nodup : (entries.map Prod.fst).Nodup
deriving DecidableEq

namespace Dict

variable {κ ν : Type}

def keys (d : Dict κ ν) : List κ := d.entries.map Prod.fst

def values (d : Dict κ ν) : List ν := d.entries.map Prod.snd

/-- The dictionary without entries. -/
def empty : Dict κ ν := ⟨[], List.nodup_nil⟩

def mapValues {ξ : Type} (f : κ → ν → ξ) (d : Dict κ ν) : Dict κ ξ where
  entries := d.entries.map fun p => (p.1, f p.1 p.2)
  nodup := by simpa [Function.comp_def] using d.nodup

theorem entries_ext {d e : Dict κ ν} (h : d.entries = e.entries) : d = e := by
  cases d
  cases e
  cases h
  rfl

variable [DecidableEq κ]

/-- The value of a key. -/
def get? (d : Dict κ ν) (k : κ) : Option ν := d.entries.lookup k

/-- The entries after an assignment: in place, or at the end. -/
def setEntry (k : κ) (v : ν) : List (κ × ν) → List (κ × ν)
  | [] => [(k, v)]
  | p :: rest => if p.1 = k then (k, v) :: rest else p :: setEntry k v rest

theorem mem_keys_setEntry (k j : κ) (v : ν) (l : List (κ × ν)) :
    j ∈ (setEntry k v l).map Prod.fst ↔ j = k ∨ j ∈ l.map Prod.fst := by
  induction l with
  | nil => simp [setEntry]
  | cons p rest ih =>
      by_cases h : p.1 = k
      · simp [setEntry, h]
      · simp only [setEntry, if_neg h, List.map_cons, List.mem_cons, ih]
        tauto

theorem nodup_setEntry (k : κ) (v : ν) (l : List (κ × ν))
    (h : (l.map Prod.fst).Nodup) : ((setEntry k v l).map Prod.fst).Nodup := by
  induction l with
  | nil => simp [setEntry]
  | cons p rest ih =>
      simp only [List.map_cons, List.nodup_cons] at h
      by_cases hk : p.1 = k
      · simp only [setEntry, if_pos hk, List.map_cons, List.nodup_cons]
        exact ⟨hk ▸ h.1, h.2⟩
      · simp only [setEntry, if_neg hk, List.map_cons, List.nodup_cons]
        refine ⟨fun hmem => ?_, ih h.2⟩
        rcases (mem_keys_setEntry k p.1 v rest).mp hmem with heq | hmem
        · exact hk heq
        · exact h.1 hmem

/-- Assignment to a key. -/
def set (d : Dict κ ν) (k : κ) (v : ν) : Dict κ ν :=
  ⟨setEntry k v d.entries, nodup_setEntry k v d.entries d.nodup⟩

/-- The dictionary without a key. -/
def erase (d : Dict κ ν) (k : κ) : Dict κ ν where
  entries := d.entries.filter fun p => p.1 ≠ k
  nodup := d.nodup.sublist (List.filter_sublist.map Prod.fst)

def ofList (l : List (κ × ν)) : Dict κ ν :=
  l.foldl (fun d p => d.set p.1 p.2) empty

@[simp] theorem get?_empty (k : κ) : (empty : Dict κ ν).get? k = none := rfl

theorem lookup_cons_ite (j : κ) (p : κ × ν) (l : List (κ × ν)) :
    (p :: l).lookup j = if j = p.1 then some p.2 else l.lookup j := by
  cases p with
  | mk k v =>
      by_cases h : j = k
      · simp [h]
      · simp [List.lookup_cons, beq_false_of_ne h, h]

theorem lookup_setEntry (k j : κ) (v : ν) (l : List (κ × ν)) :
    (setEntry k v l).lookup j = if j = k then some v else l.lookup j := by
  induction l with
  | nil => simp [setEntry, lookup_cons_ite]
  | cons p rest ih =>
      by_cases hp : p.1 = k
      · by_cases h : j = k
        · simp [setEntry, lookup_cons_ite, hp, h]
        · simp [setEntry, lookup_cons_ite, hp, h]
      · by_cases h : j = p.1
        · subst h
          simp [setEntry, lookup_cons_ite, hp]
        · simp [setEntry, lookup_cons_ite, hp, h, ih]

@[simp] theorem get?_set (d : Dict κ ν) (k j : κ) (v : ν) :
    (d.set k v).get? j = if j = k then some v else d.get? j :=
  lookup_setEntry k j v d.entries

theorem get?_set_self (d : Dict κ ν) (k : κ) (v : ν) :
    (d.set k v).get? k = some v := by simp

theorem get?_set_of_ne (d : Dict κ ν) {k j : κ} (v : ν) (h : j ≠ k) :
    (d.set k v).get? j = d.get? j := by simp [h]

theorem length_setEntry (k : κ) (v : ν) (l : List (κ × ν)) :
    (setEntry k v l).length = if (l.lookup k).isSome then l.length else l.length + 1 := by
  induction l with
  | nil => rfl
  | cons p rest ih =>
      by_cases hp : p.1 = k
      · rw [setEntry, if_pos hp, lookup_cons_ite, if_pos hp.symm]
        rfl
      · rw [setEntry, if_neg hp, lookup_cons_ite, if_neg (Ne.symm hp), List.length_cons, ih,
          List.length_cons]
        split <;> rfl

theorem length_set (d : Dict κ ν) (k : κ) (v : ν) : (d.set k v).entries.length =
    if (d.get? k).isSome then d.entries.length else d.entries.length + 1 :=
  length_setEntry k v d.entries

theorem setEntry_eq_append {k : κ} {v : ν} :
    ∀ {l : List (κ × ν)}, k ∉ l.map Prod.fst → setEntry k v l = l ++ [(k, v)]
  | [], _ => rfl
  | p :: rest, h => by
      have hp : ¬ p.1 = k := fun he => h (he ▸ List.mem_cons_self)
      have hrest : k ∉ rest.map Prod.fst := fun hm => h (List.mem_cons_of_mem _ hm)
      rw [setEntry, if_neg hp, setEntry_eq_append hrest]
      rfl

theorem entries_foldl_set :
    ∀ (l : List (κ × ν)) (d : Dict κ ν), ((d.entries ++ l).map Prod.fst).Nodup →
      (l.foldl (fun d p => d.set p.1 p.2) d).entries = d.entries ++ l
  | [], d, _ => (List.append_nil d.entries).symm
  | p :: rest, d, h => by
      have hnot : p.1 ∉ d.entries.map Prod.fst := by
        intro hm
        rw [List.map_append, List.map_cons] at h
        exact List.disjoint_of_nodup_append h hm List.mem_cons_self
      have hentries : (d.set p.1 p.2).entries = d.entries ++ [p] := setEntry_eq_append hnot
      rw [List.foldl_cons,
        entries_foldl_set rest _ (by rw [hentries, List.append_assoc]; exact h), hentries,
        List.append_assoc]
      rfl

@[simp] theorem ofList_entries (d : Dict κ ν) : ofList d.entries = d :=
  entries_ext (entries_foldl_set d.entries .empty d.nodup)

theorem mem_keys_foldl_set {k : κ} :
    ∀ (l : List (κ × ν)) (d : Dict κ ν),
      k ∈ (l.foldl (fun d p => d.set p.1 p.2) d).entries.map Prod.fst →
        k ∈ d.entries.map Prod.fst ∨ k ∈ l.map Prod.fst
  | [], _, h => .inl h
  | p :: rest, d, h => by
      rcases mem_keys_foldl_set rest _ h with hd | hrest
      · rcases (mem_keys_setEntry p.1 k p.2 d.entries).mp hd with rfl | hmem
        · exact .inr List.mem_cons_self
        · exact .inl hmem
      · exact .inr (List.mem_cons_of_mem _ hrest)

theorem mem_keys_ofList {k : κ} {l : List (κ × ν)}
    (h : k ∈ (ofList l).entries.map Prod.fst) : k ∈ l.map Prod.fst := by
  rcases mem_keys_foldl_set l .empty h with hnil | hl
  · cases hnil
  · exact hl

theorem lookup_filter_ne (k j : κ) (l : List (κ × ν)) :
    (l.filter fun p => p.1 ≠ k).lookup j =
      if j = k then none else l.lookup j := by
  induction l with
  | nil => simp
  | cons p rest ih =>
      by_cases hp : p.1 = k
      · rw [List.filter_cons_of_neg (by simp [hp]), ih, lookup_cons_ite, hp]
        by_cases h : j = k
        · simp [h]
        · simp [h]
      · rw [List.filter_cons_of_pos (by simp [hp]), lookup_cons_ite,
          lookup_cons_ite, ih]
        by_cases h : j = p.1
        · subst h
          simp [hp]
        · simp [h]

@[simp] theorem get?_erase (d : Dict κ ν) (k j : κ) :
    (d.erase k).get? j = if j = k then none else d.get? j :=
  lookup_filter_ne k j d.entries

theorem lookup_eq_some_iff {l : List (κ × ν)} (h : (l.map Prod.fst).Nodup)
    (k : κ) (v : ν) : l.lookup k = some v ↔ (k, v) ∈ l := by
  induction l with
  | nil => simp
  | cons p rest ih =>
      simp only [List.map_cons, List.nodup_cons] at h
      by_cases hp : k = p.1
      · subst hp
        have hnot : (p.1, v) ∉ rest := fun hmem =>
          h.1 (List.mem_map.mpr ⟨(p.1, v), hmem, rfl⟩)
        simp [lookup_cons_ite, hnot, Prod.ext_iff, eq_comm]
      · simp [lookup_cons_ite, hp, ih h.2, Prod.ext_iff]

theorem mem_entries (d : Dict κ ν) (k : κ) (v : ν) :
    (k, v) ∈ d.entries ↔ d.get? k = some v :=
  (lookup_eq_some_iff d.nodup k v).symm

theorem mem_keys (d : Dict κ ν) (k : κ) :
    k ∈ d.keys ↔ ∃ v, d.get? k = some v := by
  constructor
  · intro h
    obtain ⟨p, hp, rfl⟩ := List.mem_map.mp h
    exact ⟨p.2, (d.mem_entries _ _).mp hp⟩
  · rintro ⟨v, hv⟩
    exact List.mem_map.mpr ⟨(k, v), (d.mem_entries k v).mpr hv, rfl⟩

@[simp] theorem get?_mapValues {ξ : Type} (f : κ → ν → ξ) (d : Dict κ ν)
    (k : κ) : (d.mapValues f).get? k = (d.get? k).map (f k) := by
  refine Option.ext fun x => ?_
  rw [← Option.mem_def, Option.mem_def, ← mem_entries]
  simp only [mapValues, List.mem_map, Prod.mk.injEq, Option.map_eq_some_iff]
  constructor
  · rintro ⟨p, hp, rfl, rfl⟩
    exact ⟨p.2, (d.mem_entries _ _).mp hp, rfl⟩
  · rintro ⟨v, hv, rfl⟩
    exact ⟨(k, v), (d.mem_entries _ _).mpr hv, rfl, rfl⟩

theorem mapValues_congr {ξ : Type} {f g : κ → ν → ξ} {d : Dict κ ν}
    (h : ∀ k v, d.get? k = some v → f k v = g k v) :
    d.mapValues f = d.mapValues g := by
  have hmap : d.entries.map (fun p => (p.1, f p.1 p.2)) =
      d.entries.map fun p => (p.1, g p.1 p.2) := by
    refine List.map_congr_left fun p hp => ?_
    rw [h p.1 p.2 ((d.mem_entries p.1 p.2).mp hp)]
  simp only [mapValues, hmap]

theorem map_setEntry {ξ : Type} (f : κ → ν → ξ) (k : κ) (v : ν)
    (l : List (κ × ν)) :
    (setEntry k v l).map (fun p => (p.1, f p.1 p.2)) =
      setEntry k (f k v) (l.map fun p => (p.1, f p.1 p.2)) := by
  induction l with
  | nil => rfl
  | cons p rest ih =>
      by_cases hp : p.1 = k
      · simp [setEntry, hp]
      · simp [setEntry, hp, ih]

theorem mapValues_set {ξ : Type} (f : κ → ν → ξ) (d : Dict κ ν) (k : κ) (v : ν) :
    (d.set k v).mapValues f = (d.mapValues f).set k (f k v) := by
  simp only [mapValues, set, map_setEntry]

theorem mapValues_erase {ξ : Type} (f : κ → ν → ξ) (d : Dict κ ν) (k : κ) :
    (d.erase k).mapValues f = (d.mapValues f).erase k := by
  simp only [mapValues, erase, List.filter_map, Function.comp_def]

theorem map_eq_setEntry {ξ : Type} {f g : κ → ν → ξ} {k : κ} {v : ν} :
    ∀ {l : List (κ × ν)}, (l.map Prod.fst).Nodup → (k, v) ∈ l →
      (∀ p ∈ l, p.1 ≠ k → g p.1 p.2 = f p.1 p.2) →
      l.map (fun p => (p.1, g p.1 p.2)) =
        setEntry k (g k v) (l.map fun p => (p.1, f p.1 p.2)) := by
  intro l
  induction l with
  | nil =>
      intro _ hmem
      cases hmem
  | cons p rest ih =>
      intro hnodup hmem hfg
      simp only [List.map_cons, List.nodup_cons] at hnodup
      by_cases hp : p.1 = k
      · have hv : p = (k, v) := by
          rcases List.mem_cons.mp hmem with heq | hrest
          · exact heq.symm
          · exact absurd (List.mem_map.mpr ⟨(k, v), hrest, hp.symm⟩) hnodup.1
        have hrest : rest.map (fun q => (q.1, g q.1 q.2)) =
            rest.map fun q => (q.1, f q.1 q.2) := by
          refine List.map_congr_left fun q hq => ?_
          have hne : q.1 ≠ k := fun heq =>
            hnodup.1 (List.mem_map.mpr ⟨q, hq, heq.trans hp.symm⟩)
          rw [hfg q (List.mem_cons_of_mem _ hq) hne]
        simp [setEntry, hv, hrest]
      · have hmem' : (k, v) ∈ rest := by
          rcases List.mem_cons.mp hmem with heq | hrest
          · exact absurd (congrArg Prod.fst heq).symm hp
          · exact hrest
        rw [List.map_cons, List.map_cons, setEntry, if_neg hp,
          hfg p List.mem_cons_self hp,
          ih hnodup.2 hmem' fun q hq => hfg q (List.mem_cons_of_mem _ hq)]

theorem mapValues_eq_set {ξ : Type} {f g : κ → ν → ξ} {d : Dict κ ν} {k : κ}
    {v : ν} (hk : d.get? k = some v)
    (h : ∀ j w, d.get? j = some w → j ≠ k → g j w = f j w) :
    d.mapValues g = (d.mapValues f).set k (g k v) := by
  have hmap := map_eq_setEntry (g := g) (f := f) d.nodup
    ((d.mem_entries k v).mpr hk)
    fun p hp hne => h p.1 p.2 ((d.mem_entries p.1 p.2).mp hp) hne
  simp only [mapValues, set, hmap]

end Dict

end CryoDaq
