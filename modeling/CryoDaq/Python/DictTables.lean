import CryoDaq.Python.Dict

/-!
# Dictionaries that a loop fills

A loop looks each item of a list up in a dictionary and enters it there.  `Tabulates` says that the
dictionary stands for the items so far: what the loop finds under a key is what the items with this
key show.  `grouped` collects the items of each key.
-/

namespace CryoDaq
namespace Dict

variable {κ ν α γ : Type} [DecidableEq κ] {key : α → κ} {shown : α → γ} {content : ν → γ}

/-- The dictionary has the keys of the items, and under each key what an item with it shows. -/
structure Tabulates (key : α → κ) (shown : α → γ) (content : ν → γ) (d : Dict κ ν)
    (items : List α) : Prop where
  sound : ∀ k v, d.get? k = some v → ∃ a ∈ items, key a = k ∧ shown a = content v
  complete : ∀ a ∈ items, ∃ v, d.get? (key a) = some v ∧ content v = shown a

theorem tabulates_empty : Tabulates key shown content (empty : Dict κ ν) [] where
  sound k v h := by
    rw [get?_empty] at h
    cases h
  complete a ha := absurd ha List.not_mem_nil

theorem Tabulates.found_iff {d : Dict κ ν} {items : List α}
    (h : Tabulates key shown content d items) (a : α) :
    (∀ v ∈ d.get? (key a), content v = shown a) ↔
      ∀ b ∈ items, key b = key a → shown b = shown a := by
  constructor
  · intro hfound b hb hkey
    obtain ⟨v, hv, hcontent⟩ := h.complete b hb
    rw [hkey] at hv
    rw [← hcontent, hfound v hv]
  · intro hitems v hv
    obtain ⟨b, hb, hkey, hshown⟩ := h.sound _ _ hv
    rw [← hshown, hitems b hb hkey]

theorem Tabulates.enter {d : Dict κ ν} {items : List α} (h : Tabulates key shown content d items)
    {a : α} (hitems : ∀ b ∈ items, key b = key a → shown b = shown a) {v : ν}
    (hv : content v = shown a) :
    Tabulates key shown content (d.set (key a) v) (items ++ [a]) where
  sound k w hw := by
    rw [get?_set] at hw
    by_cases hk : k = key a
    · rw [if_pos hk] at hw
      cases hw
      exact ⟨a, List.mem_append_right _ (List.mem_singleton_self a), hk.symm, hv.symm⟩
    · rw [if_neg hk] at hw
      obtain ⟨b, hb, hkey, hshown⟩ := h.sound k w hw
      exact ⟨b, List.mem_append_left _ hb, hkey, hshown⟩
  complete b hb := by
    by_cases hkey : key b = key a
    · refine ⟨v, by rw [hkey, get?_set_self], ?_⟩
      rcases List.mem_append.mp hb with hold | hnew
      · rw [hv, hitems b hold hkey]
      · rw [List.mem_singleton.mp hnew, hv]
    · rcases List.mem_append.mp hb with hold | hnew
      · obtain ⟨w, hw, hcontent⟩ := h.complete b hold
        exact ⟨w, by rw [get?_set_of_ne d v hkey, hw], hcontent⟩
      · exact absurd (congrArg key (List.mem_singleton.mp hnew)) hkey

theorem Tabulates.get?_eq_none_iff {d : Dict κ ν} {items : List α}
    (h : Tabulates key shown content d items) (k : κ) :
    d.get? k = none ↔ ∀ b ∈ items, key b ≠ k := by
  constructor
  · rintro hnone b hb rfl
    obtain ⟨v, hv, _⟩ := h.complete b hb
    rw [hnone] at hv
    cases hv
  · intro hitems
    cases hget : d.get? k with
    | none => rfl
    | some v =>
        obtain ⟨b, hb, hkey, _⟩ := h.sound k v hget
        exact absurd hkey (hitems b hb)

def grouped (key : α → κ) (items : List α) : Dict κ (List α) :=
  items.foldl (fun d a => d.set (key a) ((d.get? (key a)).getD [] ++ [a])) empty

theorem get?_foldl_group (key : α → κ) (items : List α) (d : Dict κ (List α)) (k : κ) :
    (items.foldl (fun d a => d.set (key a) ((d.get? (key a)).getD [] ++ [a])) d).get? k =
      if items.filter (fun a => key a = k) = [] then d.get? k
      else some ((d.get? k).getD [] ++ items.filter fun a => key a = k) := by
  induction items generalizing d with
  | nil => rfl
  | cons a items ih =>
      rw [List.foldl_cons, ih, get?_set]
      by_cases hk : key a = k
      · have hcons : (a :: items).filter (fun b => key b = k) =
            a :: items.filter fun b => key b = k := List.filter_cons_of_pos (decide_eq_true hk)
        rw [if_pos hk.symm, hcons, if_neg (List.cons_ne_nil _ _), hk]
        by_cases hnil : items.filter (fun b => key b = k) = []
        · rw [if_pos hnil, hnil]
        · rw [if_neg hnil, Option.getD_some, List.append_assoc, List.singleton_append]
      · rw [if_neg (Ne.symm hk), List.filter_cons_of_neg (by simpa using hk)]

theorem mem_grouped {key : α → κ} {items group : List α} {k : κ} :
    (k, group) ∈ (grouped key items).entries ↔
      group = items.filter (fun a => key a = k) ∧ group ≠ [] := by
  rw [mem_entries, grouped, get?_foldl_group, get?_empty, Option.getD_none, List.nil_append]
  by_cases hnil : items.filter (fun a => key a = k) = []
  · rw [if_pos hnil, hnil]
    constructor
    · intro h
      cases h
    · intro h
      exact absurd h.1 h.2
  · rw [if_neg hnil, Option.some_inj, eq_comm]
    constructor
    · intro h
      exact ⟨h, h ▸ hnil⟩
    · intro h
      exact h.1

end Dict
end CryoDaq
