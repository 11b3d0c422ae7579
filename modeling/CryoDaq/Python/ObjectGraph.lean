import Mathlib.Data.Finset.Card
import Mathlib.Data.Fintype.Basic
import Mathlib.Logic.Relation

/-!
# Values that share containers

A Python value is a scalar or a reference to a container, and containers refer
to values again.  `Memory n` holds `n` containers; nothing keeps them from being
shared or from containing themselves.

**Data.**  `Data` is a value written out: a finite tree of scalars, lists, tuples
and dicts with text keys.  `Denotes m d v` says that `v` in memory `m` is written
out as `d`.  A value is written out in one way at most (`denotes_unique`).

**Cycles.**  A value can be written out when no container that it reaches
reaches itself and nothing it reaches is foreign (`exists_denotes`).
-/

namespace CryoDaq
namespace ObjectGraph

/-- A code point of a `str`; surrogates included. -/
abbrev CodePoint := Fin 1114112

/-- The code points of a `str`. -/
abbrev CodePoints := List CodePoint

/-- The containers that keep their items in order. -/
inductive SequenceKind
  | list
  | tuple
deriving DecidableEq

/-- A value: a scalar, a container or an object of some other type. -/
inductive Ref (n : ℕ)
  | none
  | bool (b : Bool)
  | int (i : ℤ)
  | float (bits : BitVec 64)
  | text (s : CodePoints)
  | container (a : Fin n)
  | foreign
deriving DecidableEq

def Ref.text? {n : ℕ} : Ref n → Option CodePoints
  | .text s => some s
  | _ => Option.none

inductive Container (n : ℕ)
  | sequence (kind : SequenceKind) (items : List (Ref n))
  | dict (items : List (Ref n × Ref n))

/-- The containers.  A dict has one item for each text. -/
structure Memory (n : ℕ) where
  containers : Fin n → Container n
  keys_nodup : ∀ a items, containers a = .dict items →
    (items.filterMap (fun p => p.1.text?)).Nodup

/-- A value written out. -/
inductive Data
  | none
  | bool (b : Bool)
  | int (i : ℤ)
  | float (bits : BitVec 64)
  | text (s : CodePoints)
  | sequence (kind : SequenceKind) (items : List Data)
  | dict (items : List (CodePoints × Data))

theorem Data.induction {motive : Data → Prop} (none : motive .none)
    (bool : ∀ b, motive (.bool b)) (int : ∀ i, motive (.int i))
    (float : ∀ bits, motive (.float bits)) (text : ∀ s, motive (.text s))
    (sequence : ∀ kind items, (∀ d ∈ items, motive d) → motive (.sequence kind items))
    (dict : ∀ items, (∀ p ∈ items, motive p.2) → motive (.dict items)) (d : Data) : motive d := by
  refine @Data.rec motive (fun items => ∀ d ∈ items, motive d)
    (fun items => ∀ p ∈ items, motive p.2) (fun p => motive p.2) none bool int float text
    sequence dict ?_ ?_ ?_ ?_ (fun _ _ h => h) d
  · exact fun _ h => absurd h List.not_mem_nil
  · intro d rest hd hrest x hx
    rcases List.mem_cons.mp hx with rfl | hx
    · exact hd
    · exact hrest x hx
  · exact fun _ h => absurd h List.not_mem_nil
  · intro p rest hp hrest x hx
    rcases List.mem_cons.mp hx with rfl | hx
    · exact hp
    · exact hrest x hx

namespace Data

mutual
def total (weight : Data → ℕ) (keyWeight : CodePoints → ℕ) : Data → ℕ
  | .sequence kind items => weight (.sequence kind items) + totalItems weight keyWeight items
  | .dict items => weight (.dict items) + totalFields weight keyWeight items
  | .none => weight .none
  | .bool b => weight (.bool b)
  | .int i => weight (.int i)
  | .float bits => weight (.float bits)
  | .text s => weight (.text s)

def totalItems (weight : Data → ℕ) (keyWeight : CodePoints → ℕ) : List Data → ℕ
  | [] => 0
  | d :: rest => total weight keyWeight d + totalItems weight keyWeight rest

def totalFields (weight : Data → ℕ) (keyWeight : CodePoints → ℕ) :
    List (CodePoints × Data) → ℕ
  | [] => 0
  | p :: rest =>
      keyWeight p.1 + total weight keyWeight p.2 + totalFields weight keyWeight rest
end

mutual
/-- How deep containers are nested; scalars and empty containers have height 0. -/
def height : Data → ℕ
  | .sequence _ items => heightItems items
  | .dict items => heightFields items
  | .none => 0
  | .bool _ => 0
  | .int _ => 0
  | .float _ => 0
  | .text _ => 0

/-- One more than the height of the highest item, or 0. -/
def heightItems : List Data → ℕ
  | [] => 0
  | d :: rest => max (height d + 1) (heightItems rest)

def heightFields : List (CodePoints × Data) → ℕ
  | [] => 0
  | p :: rest => max (height p.2 + 1) (heightFields rest)
end

mutual
/-- A property of every value and of the keys of every dict. -/
def Every (P : Data → Prop) (K : CodePoints → Prop) : Data → Prop
  | .sequence kind items => P (.sequence kind items) ∧ EveryItem P K items
  | .dict items => P (.dict items) ∧ EveryField P K items
  | .none => P .none
  | .bool b => P (.bool b)
  | .int i => P (.int i)
  | .float bits => P (.float bits)
  | .text s => P (.text s)

def EveryItem (P : Data → Prop) (K : CodePoints → Prop) : List Data → Prop
  | [] => True
  | d :: rest => Every P K d ∧ EveryItem P K rest

def EveryField (P : Data → Prop) (K : CodePoints → Prop) : List (CodePoints × Data) → Prop
  | [] => True
  | p :: rest => K p.1 ∧ Every P K p.2 ∧ EveryField P K rest
end

section

variable {P : Data → Prop} {K : CodePoints → Prop}

theorem EveryItem.mem {ds : List Data} (h : EveryItem P K ds) : ∀ d ∈ ds, d.Every P K := by
  induction ds with
  | nil => exact fun _ hd => absurd hd List.not_mem_nil
  | cons d ds ih =>
      intro e he
      rcases List.mem_cons.mp he with rfl | he
      · exact h.1
      · exact ih h.2 e he

theorem EveryField.mem {ds : List (CodePoints × Data)} (h : EveryField P K ds) :
    ∀ p ∈ ds, p.2.Every P K := by
  induction ds with
  | nil => exact fun _ hd => absurd hd List.not_mem_nil
  | cons d ds ih =>
      intro e he
      rcases List.mem_cons.mp he with rfl | he
      · exact h.2.1
      · exact ih h.2.2 e he

end

end Data

section

variable {n : ℕ}

mutual
def Denotes (m : Memory n) : Data → Ref n → Prop
  | .sequence kind items, .container a =>
      ∃ refs, m.containers a = .sequence kind refs ∧ DenotesItems m items refs
  | .dict items, .container a =>
      ∃ refs, m.containers a = .dict refs ∧ DenotesFields m items refs
  | .none, v => v = .none
  | .bool b, v => v = .bool b
  | .int i, v => v = .int i
  | .float bits, v => v = .float bits
  | .text s, v => v = .text s
  | .sequence _ _, _ => False
  | .dict _, _ => False

def DenotesItems (m : Memory n) : List Data → List (Ref n) → Prop
  | [], refs => refs = []
  | d :: rest, v :: refs => Denotes m d v ∧ DenotesItems m rest refs
  | _ :: _, [] => False

def DenotesFields (m : Memory n) : List (CodePoints × Data) → List (Ref n × Ref n) → Prop
  | [], refs => refs = []
  | p :: rest, q :: refs => q.1 = .text p.1 ∧ Denotes m p.2 q.2 ∧ DenotesFields m rest refs
  | _ :: _, [] => False
end

section

variable {m : Memory n}

attribute [local simp] Denotes DenotesItems DenotesFields

theorem denotes_sequence {kind : SequenceKind} {items : List Data} {v : Ref n} :
    Denotes m (.sequence kind items) v ↔ ∃ a refs, v = .container a ∧
      m.containers a = .sequence kind refs ∧ DenotesItems m items refs := by
  cases v with
  | container a =>
      constructor
      · rintro ⟨refs, hrefs, hitems⟩
        exact ⟨a, refs, rfl, hrefs, hitems⟩
      · rintro ⟨_, refs, heq, hrefs, hitems⟩
        cases heq
        exact ⟨refs, hrefs, hitems⟩
  | _ =>
      constructor
      · exact fun h => absurd h (by simp)
      · rintro ⟨_, _, heq, _⟩
        cases heq

theorem denotes_dict {items : List (CodePoints × Data)} {v : Ref n} :
    Denotes m (.dict items) v ↔ ∃ a refs, v = .container a ∧
      m.containers a = .dict refs ∧ DenotesFields m items refs := by
  cases v with
  | container a =>
      constructor
      · rintro ⟨refs, hrefs, hitems⟩
        exact ⟨a, refs, rfl, hrefs, hitems⟩
      · rintro ⟨_, refs, heq, hrefs, hitems⟩
        cases heq
        exact ⟨refs, hrefs, hitems⟩
  | _ =>
      constructor
      · exact fun h => absurd h (by simp)
      · rintro ⟨_, _, heq, _⟩
        cases heq

section

variable {d : Data}

theorem denotes_none : Denotes m d .none ↔ d = .none := by
  cases d <;> simp

theorem denotes_bool {b : Bool} : Denotes m d (.bool b) ↔ d = .bool b := by
  cases d <;> simp [eq_comm]

theorem denotes_int {i : ℤ} : Denotes m d (.int i) ↔ d = .int i := by
  cases d <;> simp [eq_comm]

theorem denotes_float {x : BitVec 64} : Denotes m d (.float x) ↔ d = .float x := by
  cases d <;> simp [eq_comm]

theorem denotes_text {s : CodePoints} : Denotes m d (.text s) ↔ d = .text s := by
  cases d <;> simp [eq_comm]

theorem not_denotes_foreign : ¬ Denotes m d .foreign := by
  cases d <;> simp

theorem denotes_container {a : Fin n} : Denotes m d (.container a) ↔
    (∃ kind items refs, d = .sequence kind items ∧ m.containers a = .sequence kind refs ∧
      DenotesItems m items refs) ∨
    ∃ items refs, d = .dict items ∧ m.containers a = .dict refs ∧
      DenotesFields m items refs := by
  cases d <;> simp

end

theorem denotesItems_unique {items others : List Data} {refs : List (Ref n)}
    (ih : ∀ d ∈ items, ∀ e v, Denotes m d v → Denotes m e v → d = e)
    (hitems : DenotesItems m items refs) (hothers : DenotesItems m others refs) :
    items = others := by
  induction items generalizing others refs with
  | nil =>
      cases hitems
      cases others with
      | nil => rfl
      | cons e rest => exact absurd hothers (by simp)
  | cons d rest hrest =>
      cases refs with
      | nil => exact absurd hitems (by simp)
      | cons v refs =>
          cases others with
          | nil => exact absurd hothers (by simp)
          | cons e others =>
              have hhead := ih d List.mem_cons_self e v hitems.1 hothers.1
              have htail := hrest (fun x hx => ih x (List.mem_cons_of_mem _ hx)) hitems.2 hothers.2
              rw [hhead, htail]

theorem denotesFields_unique {items others : List (CodePoints × Data)}
    {refs : List (Ref n × Ref n)}
    (ih : ∀ p ∈ items, ∀ e v, Denotes m p.2 v → Denotes m e v → p.2 = e)
    (hitems : DenotesFields m items refs) (hothers : DenotesFields m others refs) :
    items = others := by
  induction items generalizing others refs with
  | nil =>
      cases hitems
      cases others with
      | nil => rfl
      | cons q rest => exact absurd hothers (by simp)
  | cons p rest hrest =>
      cases refs with
      | nil => exact absurd hitems (by simp)
      | cons r refs =>
          cases others with
          | nil => exact absurd hothers (by simp)
          | cons q others =>
              have hkey : p.1 = q.1 := Ref.text.inj (hitems.1.symm.trans hothers.1)
              have hvalue := ih p List.mem_cons_self q.2 r.2 hitems.2.1 hothers.2.1
              have htail := hrest (fun x hx => ih x (List.mem_cons_of_mem _ hx))
                hitems.2.2 hothers.2.2
              rw [Prod.ext hkey hvalue, htail]

theorem denotes_unique {d e : Data} {v : Ref n} (hd : Denotes m d v) (he : Denotes m e v) :
    d = e := by
  induction d using Data.induction generalizing e v with
  | none =>
      cases hd
      exact (denotes_none.mp he).symm
  | bool b =>
      cases hd
      exact (denotes_bool.mp he).symm
  | int i =>
      cases hd
      exact (denotes_int.mp he).symm
  | float x =>
      cases hd
      exact (denotes_float.mp he).symm
  | text s =>
      cases hd
      exact (denotes_text.mp he).symm
  | sequence kind items ih =>
      obtain ⟨a, refs, rfl, hrefs, hitems⟩ := denotes_sequence.mp hd
      rcases denotes_container.mp he with ⟨kind', others, refs', rfl, hrefs', hothers⟩ |
        ⟨_, _, _, hrefs', _⟩
      · obtain ⟨rfl, rfl⟩ := Container.sequence.inj (hrefs.symm.trans hrefs')
        rw [denotesItems_unique (fun d hd e v => ih d hd) hitems hothers]
      · exact absurd (hrefs.symm.trans hrefs') nofun
  | dict items ih =>
      obtain ⟨a, refs, rfl, hrefs, hitems⟩ := denotes_dict.mp hd
      rcases denotes_container.mp he with ⟨_, _, _, _, hrefs', _⟩ |
        ⟨others, refs', rfl, hrefs', hothers⟩
      · exact absurd (hrefs.symm.trans hrefs') nofun
      · cases Container.dict.inj (hrefs.symm.trans hrefs')
        rw [denotesFields_unique (fun p hp e v => ih p hp) hitems hothers]

def KeysOnce : Data → Prop
  | .dict items => (items.map Prod.fst).Nodup
  | _ => True

abbrev Keyed (d : Data) : Prop := d.Every KeysOnce fun _ => True

theorem denotesFields_keys {ds : List (CodePoints × Data)} {refs : List (Ref n × Ref n)}
    (h : DenotesFields m ds refs) : refs.filterMap (fun q => q.1.text?) = ds.map Prod.fst := by
  induction ds generalizing refs with
  | nil =>
      cases h
      rfl
  | cons p ds ih =>
      cases refs with
      | nil => exact absurd h (by simp)
      | cons q refs =>
          have hkey : q.1.text? = some p.1 := by
            rw [h.1]
            rfl
          rw [List.filterMap_cons_some (f := fun q : Ref n × Ref n => q.1.text?) hkey, ih h.2.2,
            List.map_cons]

theorem keyed_items {ds : List Data} {refs : List (Ref n)} (h : DenotesItems m ds refs)
    (ih : ∀ d ∈ ds, ∀ v, Denotes m d v → Keyed d) :
    Data.EveryItem KeysOnce (fun _ => True) ds := by
  induction ds generalizing refs with
  | nil => trivial
  | cons d ds hds =>
      cases refs with
      | nil => exact absurd h (by simp)
      | cons v refs =>
          exact ⟨ih d List.mem_cons_self v h.1,
            hds h.2 fun e he => ih e (List.mem_cons_of_mem _ he)⟩

theorem keyed_fields {ds : List (CodePoints × Data)} {refs : List (Ref n × Ref n)}
    (h : DenotesFields m ds refs) (ih : ∀ p ∈ ds, ∀ v, Denotes m p.2 v → Keyed p.2) :
    Data.EveryField KeysOnce (fun _ => True) ds := by
  induction ds generalizing refs with
  | nil => trivial
  | cons p ds hds =>
      cases refs with
      | nil => exact absurd h (by simp)
      | cons q refs =>
          exact ⟨trivial, ih p List.mem_cons_self q.2 h.2.1,
            hds h.2.2 fun e he => ih e (List.mem_cons_of_mem _ he)⟩

theorem keyed_of_denotes {d : Data} {v : Ref n} (h : Denotes m d v) : Keyed d := by
  induction d using Data.induction generalizing v with
  | sequence kind items ih =>
      obtain ⟨a, refs, _, _, hitems⟩ := denotes_sequence.mp h
      exact ⟨trivial, keyed_items hitems fun d hd v hv => ih d hd hv⟩
  | dict items ih =>
      obtain ⟨a, refs, _, hrefs, hitems⟩ := denotes_dict.mp h
      refine ⟨?_, keyed_fields hitems fun p hp v hv => ih p hp hv⟩
      have hnodup := m.keys_nodup a refs hrefs
      rwa [denotesFields_keys hitems] at hnodup
  | _ => trivial

/-! ### Cycles and foreign objects -/

/-- The items of a container and the values of a dict. -/
def Memory.children (m : Memory n) : Ref n → List (Ref n)
  | .container a =>
      match m.containers a with
      | .sequence _ items => items
      | .dict items => items.map Prod.snd
  | _ => []

def Memory.Child (m : Memory n) (v w : Ref n) : Prop := w ∈ m.children v

/-- Some container that the value reaches contains itself. -/
def Cyclic (m : Memory n) (v : Ref n) : Prop :=
  ∃ w, Relation.ReflTransGen m.Child v w ∧ Relation.TransGen m.Child w w

/-- Not data itself: a foreign object, or a dict with a key that is not a text. -/
def Ref.IsForeign (m : Memory n) (v : Ref n) : Prop :=
  v = .foreign ∨ ∃ a items, v = .container a ∧ m.containers a = .dict items ∧
    ∃ p ∈ items, p.1.text? = Option.none

/-- The value reaches something that is not data. -/
def HasForeign (m : Memory n) (v : Ref n) : Prop :=
  ∃ w, Relation.ReflTransGen m.Child v w ∧ w.IsForeign m

def Data.size (d : Data) : ℕ := d.total (fun _ => 1) (fun _ => 0)

theorem Data.size_sequence (kind : SequenceKind) (items : List Data) :
    (Data.sequence kind items).size = 1 + totalItems (fun _ => 1) (fun _ => 0) items := rfl

theorem Data.size_dict (items : List (CodePoints × Data)) :
    (Data.dict items).size = 1 + totalFields (fun _ => 1) (fun _ => 0) items := rfl

theorem denotesItems_mem {items : List Data} {refs : List (Ref n)}
    (h : DenotesItems m items refs) : ∀ w ∈ refs, ∃ e, Denotes m e w ∧
      e.size ≤ Data.totalItems (fun _ => 1) (fun _ => 0) items := by
  induction items generalizing refs with
  | nil =>
      cases h
      exact fun _ hw => absurd hw List.not_mem_nil
  | cons d rest ih =>
      cases refs with
      | nil => exact absurd h (by simp)
      | cons v refs =>
          intro w hw
          rw [Data.totalItems]
          rcases List.mem_cons.mp hw with rfl | hw
          · exact ⟨d, h.1, Nat.le_add_right _ _⟩
          · obtain ⟨e, he, hle⟩ := ih h.2 w hw
            exact ⟨e, he, hle.trans (Nat.le_add_left _ _)⟩

theorem denotesFields_mem {items : List (CodePoints × Data)} {refs : List (Ref n × Ref n)}
    (h : DenotesFields m items refs) : ∀ q ∈ refs, (∃ s, q.1 = .text s) ∧
      ∃ e, Denotes m e q.2 ∧ e.size ≤ Data.totalFields (fun _ => 1) (fun _ => 0) items := by
  induction items generalizing refs with
  | nil =>
      cases h
      exact fun _ hw => absurd hw List.not_mem_nil
  | cons p rest ih =>
      cases refs with
      | nil => exact absurd h (by simp)
      | cons q refs =>
          intro w hw
          rw [Data.totalFields]
          rcases List.mem_cons.mp hw with rfl | hw
          · refine ⟨⟨p.1, h.1⟩, p.2, h.2.1, ?_⟩
            rw [Nat.zero_add]
            exact Nat.le_add_right _ _
          · obtain ⟨hkey, e, he, hle⟩ := ih h.2.2 w hw
            exact ⟨hkey, e, he, hle.trans (Nat.le_add_left _ _)⟩

theorem denotes_child {d : Data} {v w : Ref n} (h : Denotes m d v) (hw : m.Child v w) :
    ∃ e, Denotes m e w ∧ e.size < d.size := by
  cases v with
  | container a =>
      rw [Memory.Child, Memory.children] at hw
      rcases denotes_container.mp h with ⟨kind, items, refs, rfl, hrefs, hitems⟩ |
        ⟨items, refs, rfl, hrefs, hitems⟩
      · rw [hrefs] at hw
        obtain ⟨e, he, hle⟩ := denotesItems_mem hitems w hw
        refine ⟨e, he, ?_⟩
        rw [Data.size_sequence, Nat.add_comm]
        exact Nat.lt_succ_of_le hle
      · rw [hrefs] at hw
        obtain ⟨q, hq, rfl⟩ := List.mem_map.mp hw
        obtain ⟨_, e, he, hle⟩ := denotesFields_mem hitems q hq
        refine ⟨e, he, ?_⟩
        rw [Data.size_dict, Nat.add_comm]
        exact Nat.lt_succ_of_le hle
  | _ => exact absurd hw List.not_mem_nil

theorem denotes_reach {d : Data} {v w : Ref n} (h : Denotes m d v)
    (hw : Relation.ReflTransGen m.Child v w) : ∃ e, Denotes m e w := by
  induction hw with
  | refl => exact ⟨d, h⟩
  | tail _ hchild ih =>
      obtain ⟨e, he⟩ := ih
      obtain ⟨e', he', _⟩ := denotes_child he hchild
      exact ⟨e', he'⟩

theorem denotes_below {d : Data} {v w : Ref n} (h : Denotes m d v)
    (hw : Relation.TransGen m.Child v w) : ∃ e, Denotes m e w ∧ e.size < d.size := by
  induction hw with
  | single hchild => exact denotes_child h hchild
  | tail _ hchild ih =>
      obtain ⟨e, he, hlt⟩ := ih
      obtain ⟨e', he', hlt'⟩ := denotes_child he hchild
      exact ⟨e', he', hlt'.trans hlt⟩

theorem Denotes.not_cyclic {d : Data} {v : Ref n} (h : Denotes m d v) : ¬ Cyclic m v := by
  rintro ⟨w, hreach, hcycle⟩
  obtain ⟨e, he⟩ := denotes_reach h hreach
  obtain ⟨e', he', hlt⟩ := denotes_below he hcycle
  rw [denotes_unique he he'] at hlt
  exact lt_irrefl _ hlt

theorem Denotes.not_hasForeign {d : Data} {v : Ref n} (h : Denotes m d v) :
    ¬ HasForeign m v := by
  rintro ⟨w, hreach, hforeign⟩
  obtain ⟨e, he⟩ := denotes_reach h hreach
  rcases hforeign with rfl | ⟨a, refs, rfl, hrefs, q, hq, hkey⟩
  · exact not_denotes_foreign he
  · rcases denotes_container.mp he with ⟨_, _, _, _, hrefs', _⟩ | ⟨items, refs', _, hrefs', hitems⟩
    · exact absurd (hrefs.symm.trans hrefs') nofun
    · cases Container.dict.inj (hrefs.symm.trans hrefs')
      obtain ⟨⟨s, hs⟩, _⟩ := denotesFields_mem hitems q hq
      rw [hs] at hkey
      cases hkey

theorem exists_denotesItems {refs : List (Ref n)} (h : ∀ v ∈ refs, ∃ d, Denotes m d v) :
    ∃ items, DenotesItems m items refs := by
  induction refs with
  | nil => exact ⟨[], rfl⟩
  | cons v refs ih =>
      obtain ⟨d, hd⟩ := h v List.mem_cons_self
      obtain ⟨items, hitems⟩ := ih fun w hw => h w (List.mem_cons_of_mem _ hw)
      exact ⟨d :: items, hd, hitems⟩

theorem exists_denotesFields {refs : List (Ref n × Ref n)}
    (hkeys : ∀ q ∈ refs, q.1.text? ≠ Option.none) (h : ∀ q ∈ refs, ∃ d, Denotes m d q.2) :
    ∃ items, DenotesFields m items refs := by
  induction refs with
  | nil => exact ⟨[], rfl⟩
  | cons q refs ih =>
      obtain ⟨d, hd⟩ := h q List.mem_cons_self
      obtain ⟨items, hitems⟩ := ih (fun r hr => hkeys r (List.mem_cons_of_mem _ hr))
        fun r hr => h r (List.mem_cons_of_mem _ hr)
      have hkey := hkeys q List.mem_cons_self
      obtain ⟨k, v⟩ := q
      cases k with
      | text s => exact ⟨(s, d) :: items, rfl, hd, hitems⟩
      | _ => exact absurd rfl hkey

open Classical in
noncomputable def Memory.reached (m : Memory n) (v : Ref n) : Finset (Fin n) :=
  Finset.univ.filter fun b => Relation.ReflTransGen m.Child v (.container b)

theorem mem_reached {v : Ref n} {b : Fin n} :
    b ∈ m.reached v ↔ Relation.ReflTransGen m.Child v (.container b) := by
  simp [Memory.reached]

theorem reached_ssubset {a : Fin n} {w : Ref n} (hcycle : ¬ Cyclic m (.container a))
    (hw : m.Child (.container a) w) : m.reached w ⊂ m.reached (.container a) := by
  refine (Finset.ssubset_iff_of_subset fun b hb => ?_).mpr ⟨a, ?_, fun ha => ?_⟩
  · exact mem_reached.mpr (.head hw (mem_reached.mp hb))
  · exact mem_reached.mpr .refl
  · exact hcycle ⟨.container a, .refl, .head' hw (mem_reached.mp ha)⟩

theorem exists_denotes {v : Ref n} (hcycle : ¬ Cyclic m v) (hforeign : ¬ HasForeign m v) :
    ∃ d, Denotes m d v := by
  induction hk : (m.reached v).card using Nat.strong_induction_on generalizing v with
  | _ k ih =>
      cases v with
      | none => exact ⟨.none, rfl⟩
      | bool b => exact ⟨.bool b, rfl⟩
      | int i => exact ⟨.int i, rfl⟩
      | float x => exact ⟨.float x, rfl⟩
      | text s => exact ⟨.text s, rfl⟩
      | foreign => exact absurd ⟨_, .refl, .inl rfl⟩ hforeign
      | container a =>
          have hchild : ∀ w, m.Child (.container a) w → ∃ d, Denotes m d w := by
            intro w hw
            refine ih _ (hk ▸ Finset.card_lt_card (reached_ssubset hcycle hw)) ?_ ?_ rfl
            · rintro ⟨x, hreach, hloop⟩
              exact hcycle ⟨x, .head hw hreach, hloop⟩
            · rintro ⟨x, hreach, hx⟩
              exact hforeign ⟨x, .head hw hreach, hx⟩
          cases hrefs : m.containers a with
          | sequence kind refs =>
              obtain ⟨items, hitems⟩ := @exists_denotesItems n m refs fun w hw =>
                hchild w (by rw [Memory.Child, Memory.children, hrefs]; exact hw)
              exact ⟨.sequence kind items, refs, hrefs, hitems⟩
          | dict refs =>
              obtain ⟨items, hitems⟩ := @exists_denotesFields n m refs
                (fun q hq hkey => hforeign ⟨_, .refl, .inr ⟨a, refs, rfl, hrefs, q, hq, hkey⟩⟩)
                fun q hq => hchild q.2 (by
                  rw [Memory.Child, Memory.children, hrefs]
                  exact List.mem_map_of_mem hq)
              exact ⟨.dict items, refs, hrefs, hitems⟩

end

end

end ObjectGraph

end CryoDaq
