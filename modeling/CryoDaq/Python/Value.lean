import CryoDaq.Python.FloatText
import CryoDaq.Python.Number
import Mathlib.Data.List.Sort
import Mathlib.Data.String.Basic

/-!
# Built-in values on their way through JSON

A configuration that `yaml.safe_load` returns is made of scalars, lists and
dicts whose keys need not be texts.  Two things happen to such a value.

**Written and read.**  `Value.reload` is `json.loads(json.dumps(v))`: a key
becomes its spelling, and of two keys with one spelling the later value stays.

**Fingerprinted.**  `Value.canonical` is the document that
`json.dumps(v, sort_keys=True)` spells.  The keys are sorted as they are, before
they are spelled; keys that do not compare raise.
-/

namespace CryoDaq

/-- A key that `json.dumps` accepts. -/
inductive Key
  | none
  | bool (b : Bool)
  | int (n : ℤ)
  | float (x : Float)
  | text (s : String)
deriving DecidableEq

namespace Key

def spelling : Key → String
  | none => "null"
  | bool true => "true"
  | bool false => "false"
  | int n => n.repr
  | float x =>
      if x.isNaN then "NaN"
      else if x.isInf then (if 0.0 < x then "Infinity" else "-Infinity")
      else String.ofList (FloatText.reprFloat x)
  | text s => s

def spelled (k : Key) : Key := text k.spelling

def number : Key → Option Number
  | bool b => some (.int (if b then 1 else 0))
  | int n => some (.int n)
  | float x => some (.float x)
  | _ => Option.none

def isText : Key → Bool
  | text _ => true
  | _ => false

/-- `a <= b` for two keys that compare. -/
def le : Key → Key → Bool
  | text s, text t => s ≤ t
  | a, b =>
      match a.number, b.number with
      | some m, some n => m.le n
      | _, _ => false

end Key

/-- A value made of scalars, lists and dicts. -/
inductive Value
  | null
  | bool (b : Bool)
  | int (n : ℤ)
  | float (x : Float)
  | str (s : String)
  | list (items : List Value)
  | dict (fields : List (Key × Value))

/-- The items of a dict, in order. -/
abbrev Fields := List (Key × Value)

namespace Value

/-- `d[k] = v` on the items of a dict. -/
def insertField (k : Key) (v : Value) : Fields → Fields
  | [] => [(k, v)]
  | p :: rest => if p.1 = k then (k, v) :: rest else p :: insertField k v rest

/-- The dict of a sequence of items. -/
def ofPairs (pairs : Fields) : Fields :=
  pairs.foldl (fun fields p => insertField p.1 p.2 fields) []

mutual
/-- `json.loads(json.dumps(v))` -/
def reload : Value → Value
  | list items => list (reloadItems items)
  | dict fields => dict (ofPairs (reloadFields fields))
  | null => null
  | bool b => bool b
  | int n => int n
  | float x => float x
  | str s => str s

def reloadItems : List Value → List Value
  | [] => []
  | v :: rest => reload v :: reloadItems rest

def reloadFields : Fields → Fields
  | [] => []
  | p :: rest => (p.1.spelled, reload p.2) :: reloadFields rest
end

/-- Keys that `sorted` can order. -/
def sortable (keys : List Key) : Bool :=
  keys.length ≤ 1 || keys.all Key.isText || keys.all fun k => k.number.isSome

/-- The items of a dict by their keys. -/
def sortFields (fields : Fields) : Fields :=
  fields.insertionSort fun p q => p.1.le q.1

def spellField (p : Key × Value) : Key × Value := (p.1.spelled, p.2)

mutual
/-- The document of `json.dumps(v, sort_keys=True)`; `none` when it raises. -/
def canonical : Value → Option Value
  | list items => (canonicalItems items).map list
  | dict fields =>
      if sortable (fields.map Prod.fst) then
        (canonicalFields fields).map fun done => dict ((sortFields done).map spellField)
      else none
  | null => some null
  | bool b => some (bool b)
  | int n => some (int n)
  | float x => some (float x)
  | str s => some (str s)

def canonicalItems : List Value → Option (List Value)
  | [] => some []
  | v :: rest => (canonical v).bind fun c => (canonicalItems rest).map (c :: ·)

def canonicalFields : Fields → Option Fields
  | [] => some []
  | p :: rest => (canonical p.2).bind fun c => (canonicalFields rest).map ((p.1, c) :: ·)
end

/-! ## Dicts from pairs -/

theorem insertField_eq_append {k : Key} {v : Value} :
    ∀ {l : Fields}, k ∉ l.map Prod.fst → insertField k v l = l ++ [(k, v)]
  | [], _ => rfl
  | p :: rest, h => by
      have hp : ¬ p.1 = k := fun he => h (he ▸ List.mem_cons_self)
      have hrest : k ∉ rest.map Prod.fst := fun hm => h (List.mem_cons_of_mem _ hm)
      rw [insertField, if_neg hp, insertField_eq_append hrest]
      rfl

theorem mem_insertField {k : Key} {v : Value} {q : Key × Value} :
    ∀ {l : Fields}, q ∈ insertField k v l → q = (k, v) ∨ q ∈ l
  | [], h => .inl (List.mem_singleton.mp h)
  | p :: rest, h => by
      by_cases hp : p.1 = k
      · rw [insertField, if_pos hp] at h
        rcases List.mem_cons.mp h with hq | hq
        · exact .inl hq
        · exact .inr (List.mem_cons_of_mem _ hq)
      · rw [insertField, if_neg hp] at h
        rcases List.mem_cons.mp h with hq | hq
        · exact .inr (hq ▸ List.mem_cons_self)
        · exact (mem_insertField hq).imp_right (List.mem_cons_of_mem _)

theorem mem_keys_insertField {k j : Key} {v : Value} {l : Fields}
    (h : j ∈ (insertField k v l).map Prod.fst) : j = k ∨ j ∈ l.map Prod.fst := by
  obtain ⟨q, hq, rfl⟩ := List.mem_map.mp h
  rcases mem_insertField hq with rfl | hmem
  · exact .inl rfl
  · exact .inr (List.mem_map_of_mem hmem)

theorem nodup_insertField {k : Key} {v : Value} :
    ∀ {l : Fields}, (l.map Prod.fst).Nodup → ((insertField k v l).map Prod.fst).Nodup
  | [], _ => List.nodup_singleton k
  | p :: rest, h => by
      have hnodup := List.nodup_cons.mp h
      by_cases hp : p.1 = k
      · rw [insertField, if_pos hp]
        exact List.nodup_cons.mpr ⟨hp ▸ hnodup.1, hnodup.2⟩
      · rw [insertField, if_neg hp]
        refine List.nodup_cons.mpr ⟨?_, nodup_insertField hnodup.2⟩
        intro hm
        rcases mem_keys_insertField hm with he | hin
        · exact hp he
        · exact hnodup.1 hin

theorem foldl_insertField :
    ∀ (l acc : Fields), ((acc ++ l).map Prod.fst).Nodup →
      l.foldl (fun fields p => insertField p.1 p.2 fields) acc = acc ++ l
  | [], acc, _ => (List.append_nil acc).symm
  | p :: rest, acc, h => by
      have hmap : (acc ++ p :: rest).map Prod.fst =
          acc.map Prod.fst ++ p.1 :: rest.map Prod.fst := by
        rw [List.map_append, List.map_cons]
      have hnot : p.1 ∉ acc.map Prod.fst := by
        intro hm
        rw [hmap] at h
        exact List.disjoint_of_nodup_append h hm List.mem_cons_self
      have hstep : acc ++ [(p.1, p.2)] ++ rest = acc ++ p :: rest := by
        rw [List.append_assoc]
        rfl
      rw [List.foldl_cons, insertField_eq_append hnot,
        foldl_insertField rest _ (by rw [hstep]; exact h), hstep]

theorem ofPairs_eq_self {l : Fields} (h : (l.map Prod.fst).Nodup) : ofPairs l = l :=
  foldl_insertField l [] h

theorem nodup_foldl_insertField :
    ∀ (l acc : Fields), (acc.map Prod.fst).Nodup →
      ((l.foldl (fun fields p => insertField p.1 p.2 fields) acc).map Prod.fst).Nodup
  | [], _, h => h
  | _ :: rest, _, h => nodup_foldl_insertField rest _ (nodup_insertField h)

theorem nodup_ofPairs (l : Fields) : ((ofPairs l).map Prod.fst).Nodup :=
  nodup_foldl_insertField l [] List.nodup_nil

theorem mem_foldl_insertField {q : Key × Value} :
    ∀ (l acc : Fields),
      q ∈ l.foldl (fun fields p => insertField p.1 p.2 fields) acc → q ∈ acc ∨ q ∈ l
  | [], _, h => .inl h
  | p :: rest, acc, h => by
      rcases mem_foldl_insertField rest _ h with hacc | hrest
      · rcases mem_insertField hacc with hq | hq
        · exact .inr (hq ▸ List.mem_cons_self)
        · exact .inl hq
      · exact .inr (List.mem_cons_of_mem _ hrest)

theorem mem_ofPairs {q : Key × Value} {l : Fields} (h : q ∈ ofPairs l) : q ∈ l := by
  rcases mem_foldl_insertField l [] h with hnil | hl
  · cases hnil
  · exact hl

@[simp] theorem keys_reloadFields :
    ∀ f : Fields, (reloadFields f).map Prod.fst = f.map fun p => p.1.spelled
  | [] => rfl
  | p :: rest => congrArg (p.1.spelled :: ·) (keys_reloadFields rest)

theorem reloadFields_eq_self :
    ∀ {f : Fields}, (∀ p ∈ f, p.1.spelled = p.1 ∧ reload p.2 = p.2) → reloadFields f = f
  | [], _ => rfl
  | p :: rest, h => by
      have hp := h p List.mem_cons_self
      have hrest : reloadFields rest = rest :=
        reloadFields_eq_self fun q hq => h q (List.mem_cons_of_mem _ hq)
      rw [reloadFields, hp.1, hp.2, hrest]

mutual
theorem reload_reload : ∀ v : Value, reload (reload v) = reload v
  | list items => congrArg list (reloadItems_reloadItems items)
  | dict fields => by
      have hfields : ∀ p ∈ ofPairs (reloadFields fields),
          p.1.spelled = p.1 ∧ reload p.2 = p.2 :=
        fun p hp => reloadFields_steady fields p (mem_ofPairs hp)
      simp only [reload]
      rw [reloadFields_eq_self hfields, ofPairs_eq_self (nodup_ofPairs _)]
  | null => rfl
  | bool _ => rfl
  | int _ => rfl
  | float _ => rfl
  | str _ => rfl

theorem reloadItems_reloadItems :
    ∀ items : List Value, reloadItems (reloadItems items) = reloadItems items
  | [] => rfl
  | v :: rest => by
      simp only [reloadItems]
      rw [reload_reload v, reloadItems_reloadItems rest]

theorem reloadFields_steady :
    ∀ (f : Fields), ∀ p ∈ reloadFields f, p.1.spelled = p.1 ∧ reload p.2 = p.2
  | [], _, h => by cases h
  | q :: rest, p, h => by
      rcases List.mem_cons.mp h with rfl | hrest
      · exact ⟨rfl, reload_reload q.2⟩
      · exact reloadFields_steady rest p hrest
end

end Value
end CryoDaq
