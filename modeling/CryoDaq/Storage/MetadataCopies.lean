import CryoDaq.Storage.LiveMetadata

/-!
# Which metadata is frozen, and what it thaws to

**Accepted.**  `freeze_eq_ok_iff` says for every level, path and budget which
values are copied: those that are written out as data, meet no container of the
path again, are not too high, are fine in every place, and fit both budgets.

**Faithful.**  The copy of data thaws to the data again, since a dict of the
source has each key once.
-/

namespace CryoDaq
namespace Storage

open ObjectGraph

section

variable {n : ℕ} (u : Unicode) (m : Memory n)

/-- An integer in the range of 64 bits, or a text of the grammar. -/
def Fine : Data → Prop
  | .int i => -9223372036854775808 ≤ i ∧ i ≤ 9223372036854775807
  | .text s => BoundedText u maxLiveMetadataTextBytes s
  | _ => True

/-- Every value is fine and every key is a text of the grammar. -/
abbrev AllFine (d : Data) : Prop := d.Every (Fine u) (BoundedText u maxLiveMetadataTextBytes)

end

/-- The bytes a value takes itself. -/
def cost : Data → ℕ
  | .text s => textCost s
  | _ => 8

/-- The bytes a value takes with all it contains. -/
abbrev aggregateBytes (d : Data) : ℕ := d.total cost textCost

mutual
def frozen : Data → Frozen
  | .sequence kind items => .sequence kind (frozenItems items)
  | .dict items => .dict (frozenFields items)
  | .none => .none
  | .bool b => .bool b
  | .int i => .int i
  | .float bits => .float bits
  | .text s => .text s

def frozenItems : List Data → List Frozen
  | [] => []
  | d :: rest => frozen d :: frozenItems rest

def frozenFields : List (CodePoints × Data) → List (CodePoints × Frozen)
  | [] => []
  | p :: rest => (p.1, frozen p.2) :: frozenFields rest
end

/-- `size` values and `bytes` bytes were taken from the budget. -/
structure Spends (size bytes : ℕ) (b b' : Budget) : Prop where
  items_le : size ≤ b.items
  bytes_le : bytes ≤ b.bytes
  left : b' = ⟨b.items - size, b.bytes - bytes⟩

theorem Spends.zero_iff {b b' : Budget} : Spends 0 0 b b' ↔ b' = b :=
  ⟨fun h => h.left, fun h => ⟨Nat.zero_le _, Nat.zero_le _, h⟩⟩

theorem Spends.add_iff {s t c e : ℕ} {b b'' : Budget} :
    Spends (s + t) (c + e) b b'' ↔ ∃ b', Spends s c b b' ∧ Spends t e b' b'' := by
  constructor
  · rintro ⟨hitems, hbytes, rfl⟩
    refine ⟨⟨b.items - s, b.bytes - c⟩, ⟨by omega, by omega, rfl⟩, ?_, ?_, ?_⟩
    · exact Nat.le_sub_of_add_le (by omega)
    · exact Nat.le_sub_of_add_le (by omega)
    · rw [Nat.sub_sub, Nat.sub_sub]
  · rintro ⟨_, ⟨hitems, hbytes, rfl⟩, hitems', hbytes', rfl⟩
    refine ⟨by dsimp only at hitems'; omega, by dsimp only at hbytes'; omega, ?_⟩
    rw [Nat.sub_sub, Nat.sub_sub]

theorem consumeItem_eq_ok {b b' : Budget} : consumeItem b = .ok b' ↔ Spends 1 0 b b' := by
  simp only [consumeItem, bind_eq_ok, ensure_eq_ok, exists_unit, pure_eq_ok]
  constructor
  · rintro ⟨hle, rfl⟩
    exact ⟨hle, Nat.zero_le _, rfl⟩
  · rintro ⟨hle, _, rfl⟩
    exact ⟨hle, rfl⟩

theorem consumeBytes_eq_ok {count : ℕ} {b b' : Budget} :
    consumeBytes count b = .ok b' ↔ Spends 0 count b b' := by
  simp only [consumeBytes, bind_eq_ok, ensure_eq_ok, exists_unit, pure_eq_ok]
  constructor
  · rintro ⟨hle, rfl⟩
    exact ⟨Nat.zero_le _, hle, rfl⟩
  · rintro ⟨_, hle, rfl⟩
    exact ⟨hle, rfl⟩

theorem boundedLiveText_eq_ok {n : ℕ} {u : Unicode} {field : String} {maximum : ℕ} {v : Ref n}
    {s : CodePoints} :
    boundedLiveText u field maximum v = .ok s ↔ v = .text s ∧ BoundedText u maximum s := by
  cases v with
  | text value =>
      simp only [boundedLiveText, bind_eq_ok, ensure_eq_ok, exists_unit, BoundedText]
      cases hlength : utf8Length value with
      | none =>
          refine iff_of_false ?_ ?_
          · rintro ⟨_, _, h⟩
            cases h
          · rintro ⟨heq, _, _, _, hsome, _⟩
            cases heq
            rw [hlength] at hsome
            cases hsome
      | some encoded =>
          simp only [bind_eq_ok, ensure_eq_ok, exists_unit, pure_eq_ok]
          constructor
          · rintro ⟨hnfc, hcontrol, hrange, rfl⟩
            exact ⟨rfl, hnfc, hcontrol, encoded, hlength, hrange⟩
          · rintro ⟨heq, hnfc, hcontrol, encoded', hsome, hrange⟩
            cases heq
            rw [hlength] at hsome
            cases hsome
            exact ⟨hnfc, hcontrol, hrange, rfl⟩
  | _ =>
      refine iff_of_false ?_ ?_
      · intro h
        cases h
      · rintro ⟨h, _⟩
        cases h

section

variable {n : ℕ} (u : Unicode) (m : Memory n)

/-- The value reaches none of the containers. -/
def Avoids (active : List (Fin n)) (v : Ref n) : Prop :=
  ∀ a ∈ active, ¬ Relation.ReflTransGen m.Child v (.container a)

/-- What it takes to copy a value as the data with `left` levels to go. -/
structure Copied (left : ℕ) (active : List (Fin n)) (d : Data) (v : Ref n) (b : Budget)
    (r : Frozen × Budget) : Prop where
  denotes : Denotes m d v
  avoids : Avoids m active v
  height : d.height < left
  fine : AllFine u d
  spends : Spends d.size (aggregateBytes d) b r.2
  result : r.1 = frozen d

structure CopiedItems (left : ℕ) (active : List (Fin n)) (ds : List Data) (refs : List (Ref n))
    (b : Budget) (r : List Frozen × Budget) : Prop where
  denotes : DenotesItems m ds refs
  avoids : ∀ v ∈ refs, Avoids m active v
  height : Data.heightItems ds ≤ left
  fine : Data.EveryItem (Fine u) (BoundedText u maxLiveMetadataTextBytes) ds
  spends : Spends (Data.totalItems (fun _ => 1) (fun _ => 0) ds)
    (Data.totalItems cost textCost ds) b r.2
  result : r.1 = frozenItems ds

structure CopiedFields (left : ℕ) (active : List (Fin n)) (ds : List (CodePoints × Data))
    (refs : List (Ref n × Ref n)) (b : Budget) (r : List (CodePoints × Frozen) × Budget) :
    Prop where
  denotes : DenotesFields m ds refs
  avoids : ∀ q ∈ refs, Avoids m active q.2
  height : Data.heightFields ds ≤ left
  fine : Data.EveryField (Fine u) (BoundedText u maxLiveMetadataTextBytes) ds
  spends : Spends (Data.totalFields (fun _ => 1) (fun _ => 0) ds)
    (Data.totalFields cost textCost ds) b r.2
  result : r.1 = frozenFields ds

variable {u m} {left : ℕ} {active : List (Fin n)}

theorem freezeItems_eq_ok_iff {f : Ref n → Budget → Except String (Frozen × Budget)}
    (hf : ∀ v b r, f v b = .ok r ↔ ∃ d, Copied u m left active d v b r)
    (refs : List (Ref n)) (b : Budget) (r : List Frozen × Budget) :
    freezeItems f refs b = .ok r ↔ ∃ ds, CopiedItems u m left active ds refs b r := by
  induction refs generalizing b r with
  | nil =>
      constructor
      · intro h
        cases h
        exact ⟨[], rfl, fun _ hv => absurd hv List.not_mem_nil, Nat.zero_le _, trivial,
          Spends.zero_iff.mpr rfl, rfl⟩
      · rintro ⟨ds, h⟩
        cases ds with
        | nil =>
            have hleft := Spends.zero_iff.mp h.spends
            exact congrArg Except.ok (Prod.ext h.result hleft).symm
        | cons d ds => exact absurd h.denotes (by simp [DenotesItems])
  | cons v refs ih =>
      simp only [freezeItems, bind_eq_ok, pure_eq_ok, hf, ih]
      constructor
      · rintro ⟨head, ⟨d, hd⟩, tail, ⟨ds, hds⟩, rfl⟩
        refine ⟨d :: ds, ⟨hd.denotes, hds.denotes⟩, ?_, ?_, ⟨hd.fine, hds.fine⟩, ?_, ?_⟩
        · intro w hw
          rcases List.mem_cons.mp hw with rfl | hw
          · exact hd.avoids
          · exact hds.avoids w hw
        · exact Nat.max_le.mpr ⟨hd.height, hds.height⟩
        · exact Spends.add_iff.mpr ⟨head.2, hd.spends, hds.spends⟩
        · rw [hd.result, hds.result, frozenItems]
      · rintro ⟨ds, h⟩
        cases ds with
        | nil => exact absurd h.denotes (by simp [DenotesItems])
        | cons d ds =>
            obtain ⟨b', hhead, htail⟩ := Spends.add_iff.mp h.spends
            have hheight := Nat.max_le.mp h.height
            refine ⟨(frozen d, b'), ⟨d, h.denotes.1, h.avoids v List.mem_cons_self, hheight.1,
              h.fine.1, hhead, rfl⟩, (frozenItems ds, r.2), ⟨ds, h.denotes.2, fun w hw =>
              h.avoids w (List.mem_cons_of_mem _ hw), hheight.2, h.fine.2, htail, rfl⟩, ?_⟩
            exact Prod.ext h.result.symm rfl

theorem freezeFields_eq_ok_iff {f : Ref n → Budget → Except String (Frozen × Budget)}
    (hf : ∀ v b r, f v b = .ok r ↔ ∃ d, Copied u m left active d v b r)
    (refs : List (Ref n × Ref n)) (b : Budget) (r : List (CodePoints × Frozen) × Budget) :
    freezeFields u f refs b = .ok r ↔ ∃ ds, CopiedFields u m left active ds refs b r := by
  induction refs generalizing b r with
  | nil =>
      constructor
      · intro h
        cases h
        exact ⟨[], rfl, fun _ hv => absurd hv List.not_mem_nil, Nat.zero_le _, trivial,
          Spends.zero_iff.mpr rfl, rfl⟩
      · rintro ⟨ds, h⟩
        cases ds with
        | nil =>
            have hleft := Spends.zero_iff.mp h.spends
            exact congrArg Except.ok (Prod.ext h.result hleft).symm
        | cons p ds => exact absurd h.denotes (by simp [DenotesFields])
  | cons q refs ih =>
      simp only [freezeFields, bind_eq_ok, pure_eq_ok, ensure_eq_ok, exists_unit,
        boundedLiveText_eq_ok, consumeBytes_eq_ok, hf, ih]
      constructor
      · rintro ⟨_, key, ⟨hkey, hbounded⟩, b₁, hcost, head, ⟨d, hd⟩, tail, ⟨ds, hds⟩, rfl⟩
        refine ⟨(key, d) :: ds, ⟨hkey, hd.denotes, hds.denotes⟩, ?_, ?_,
          ⟨hbounded, hd.fine, hds.fine⟩, ?_, ?_⟩
        · intro w hw
          rcases List.mem_cons.mp hw with rfl | hw
          · exact hd.avoids
          · exact hds.avoids w hw
        · exact Nat.max_le.mpr ⟨hd.height, hds.height⟩
        · exact Spends.add_iff.mpr ⟨head.2, Spends.add_iff.mpr ⟨b₁, hcost, hd.spends⟩, hds.spends⟩
        · rw [hd.result, hds.result, frozenFields]
      · rintro ⟨ds, h⟩
        cases ds with
        | nil => exact absurd h.denotes (by simp [DenotesFields])
        | cons p ds =>
            obtain ⟨b', hfirst, htail⟩ := Spends.add_iff.mp h.spends
            obtain ⟨b₁, hcost, hhead⟩ := Spends.add_iff.mp hfirst
            have hheight := Nat.max_le.mp h.height
            refine ⟨by rw [h.denotes.1]; rfl, p.1, ⟨h.denotes.1, h.fine.1⟩, b₁, hcost,
              (frozen p.2, b'), ⟨p.2, h.denotes.2.1, h.avoids q List.mem_cons_self, hheight.1,
              h.fine.2.1, hhead, rfl⟩, (frozenFields ds, r.2), ⟨ds, h.denotes.2.2, fun w hw =>
              h.avoids w (List.mem_cons_of_mem _ hw), hheight.2, h.fine.2.2, htail, rfl⟩, ?_⟩
            exact Prod.ext h.result.symm rfl

/-- What it takes to copy a value that was counted already. -/
structure CopiedValue (u : Unicode) (m : Memory n) (left : ℕ) (active : List (Fin n)) (d : Data)
    (v : Ref n) (b : Budget) (r : Frozen × Budget) : Prop where
  denotes : Denotes m d v
  avoids : Avoids m active v
  height : d.height ≤ left
  fine : AllFine u d
  spends : Spends (d.size - 1) (aggregateBytes d) b r.2
  result : r.1 = frozen d

theorem one_le_size (d : Data) : 1 ≤ d.size := by
  cases d with
  | sequence kind items => exact Nat.le_add_right 1 _
  | dict items => exact Nat.le_add_right 1 _
  | _ => exact le_rfl

theorem avoids_of_scalar {v : Ref n} (hchildren : m.children v = [])
    (hscalar : ∀ a, v ≠ .container a) : Avoids m active v := by
  intro a _ hreach
  rcases hreach.cases_head with heq | ⟨w, hw, _⟩
  · exact hscalar a heq
  · rw [Memory.Child, hchildren] at hw
    exact absurd hw List.not_mem_nil

theorem copiedValue_scalar_iff {d : Data} {v : Ref n} {b : Budget} {r : Frozen × Budget}
    (hdenotes : ∀ e, Denotes m e v ↔ e = d) (hchildren : m.children v = [])
    (hscalar : ∀ a, v ≠ .container a) (hsize : d.size = 1) (hheight : d.height = 0) :
    (∃ e, CopiedValue u m left active e v b r) ↔
      AllFine u d ∧ Spends 0 (aggregateBytes d) b r.2 ∧ r.1 = frozen d := by
  constructor
  · rintro ⟨e, h⟩
    have heq := (hdenotes e).mp h.denotes
    subst heq
    have hspends := h.spends
    rw [hsize] at hspends
    exact ⟨h.fine, hspends, h.result⟩
  · rintro ⟨hfine, hspends, hresult⟩
    refine ⟨d, (hdenotes d).mpr rfl, avoids_of_scalar hchildren hscalar, ?_, hfine, ?_, hresult⟩
    · rw [hheight]
      exact Nat.zero_le _
    · rw [hsize]
      exact hspends

theorem Avoids.child {a : Fin n} {w : Ref n} (hcycle : ¬ Cyclic m (.container a))
    (h : Avoids m active (.container a)) (hw : m.Child (.container a) w) :
    Avoids m (a :: active) w := by
  intro c hc hreach
  rcases List.mem_cons.mp hc with rfl | hc
  · exact hcycle ⟨.container c, .refl, .head' hw hreach⟩
  · exact h c hc (.head hw hreach)

theorem avoids_container {a : Fin n} (ha : a ∉ active)
    (h : ∀ w, m.Child (.container a) w → Avoids m (a :: active) w) :
    Avoids m active (.container a) := by
  intro c hc hreach
  rcases hreach.cases_head with heq | ⟨w, hw, hrest⟩
  · cases heq
    exact ha hc
  · exact h w hw c (List.mem_cons_of_mem _ hc) hrest

theorem not_mem_of_avoids {a : Fin n} (h : Avoids m active (.container a)) : a ∉ active :=
  fun ha => h a ha .refl

theorem prod_eq_iff {α β : Type} {x : α} {P : β → Prop} {r : α × β} :
    (∃ y, P y ∧ (x, y) = r) ↔ P r.2 ∧ r.1 = x := by
  constructor
  · rintro ⟨y, hy, rfl⟩
    exact ⟨hy, rfl⟩
  · rintro ⟨hy, rfl⟩
    exact ⟨r.2, hy, rfl⟩

theorem freezeSequence_eq_ok_iff {f : Ref n → Budget → Except String (Frozen × Budget)}
    {a : Fin n} {kind : SequenceKind} {refs : List (Ref n)}
    (hf : ∀ v b r, f v b = .ok r ↔ ∃ d, Copied u m left (a :: active) d v b r)
    (hrefs : m.containers a = .sequence kind refs) (b : Budget) (r : Frozen × Budget) :
    (∃ b₁, Spends 0 8 b b₁ ∧ a ∉ active ∧ ∃ done, freezeItems f refs b₁ = .ok done ∧
      (Frozen.sequence kind done.1, done.2) = r) ↔
      ∃ d, CopiedValue u m left active d (.container a) b r := by
  have hchild : ∀ w, m.Child (.container a) w ↔ w ∈ refs := by
    intro w
    rw [Memory.Child, Memory.children, hrefs]
  simp only [freezeItems_eq_ok_iff hf]
  constructor
  · rintro ⟨b₁, hfirst, ha, done, ⟨ds, h⟩, rfl⟩
    refine ⟨.sequence kind ds, ⟨refs, hrefs, h.denotes⟩, ?_, h.height, ⟨trivial, h.fine⟩, ?_, ?_⟩
    · exact avoids_container ha fun w hw => h.avoids w ((hchild w).mp hw)
    · rw [Data.size_sequence, Nat.add_sub_cancel_left, ← Nat.zero_add (Data.totalItems _ _ ds)]
      exact Spends.add_iff.mpr ⟨b₁, hfirst, h.spends⟩
    · rw [h.result, frozen]
  · rintro ⟨d, h⟩
    rcases denotes_container.mp h.denotes with ⟨kind', ds, refs', rfl, hrefs', hitems⟩ |
      ⟨_, _, _, hrefs', _⟩
    · obtain ⟨rfl, rfl⟩ := Container.sequence.inj (hrefs.symm.trans hrefs')
      have hspends := h.spends
      rw [Data.size_sequence, Nat.add_sub_cancel_left,
        ← Nat.zero_add (Data.totalItems _ _ ds)] at hspends
      obtain ⟨b₁, hfirst, hrest⟩ := Spends.add_iff.mp hspends
      refine ⟨b₁, hfirst, not_mem_of_avoids h.avoids, (frozenItems ds, r.2), ⟨ds, hitems, ?_,
        h.height, h.fine.2, hrest, rfl⟩, Prod.ext h.result.symm rfl⟩
      exact fun w hw => h.avoids.child h.denotes.not_cyclic ((hchild w).mpr hw)
    · cases hrefs.symm.trans hrefs'

theorem freezeDict_eq_ok_iff {f : Ref n → Budget → Except String (Frozen × Budget)}
    {a : Fin n} {refs : List (Ref n × Ref n)}
    (hf : ∀ v b r, f v b = .ok r ↔ ∃ d, Copied u m left (a :: active) d v b r)
    (hrefs : m.containers a = .dict refs) (b : Budget) (r : Frozen × Budget) :
    (∃ b₁, Spends 0 8 b b₁ ∧ a ∉ active ∧ ∃ done, freezeFields u f refs b₁ = .ok done ∧
      (Frozen.dict done.1, done.2) = r) ↔
      ∃ d, CopiedValue u m left active d (.container a) b r := by
  have hchild : ∀ w, m.Child (.container a) w ↔ w ∈ refs.map Prod.snd := by
    intro w
    rw [Memory.Child, Memory.children, hrefs]
  simp only [freezeFields_eq_ok_iff hf]
  constructor
  · rintro ⟨b₁, hfirst, ha, done, ⟨ds, h⟩, rfl⟩
    refine ⟨.dict ds, ⟨refs, hrefs, h.denotes⟩, ?_, h.height, ⟨trivial, h.fine⟩, ?_, ?_⟩
    · refine avoids_container ha fun w hw => ?_
      obtain ⟨q, hq, rfl⟩ := List.mem_map.mp ((hchild w).mp hw)
      exact h.avoids q hq
    · rw [Data.size_dict, Nat.add_sub_cancel_left, ← Nat.zero_add (Data.totalFields _ _ ds)]
      exact Spends.add_iff.mpr ⟨b₁, hfirst, h.spends⟩
    · rw [h.result, frozen]
  · rintro ⟨d, h⟩
    rcases denotes_container.mp h.denotes with ⟨_, _, _, _, hrefs', _⟩ |
      ⟨ds, refs', rfl, hrefs', hitems⟩
    · cases hrefs.symm.trans hrefs'
    · cases Container.dict.inj (hrefs.symm.trans hrefs')
      have hspends := h.spends
      rw [Data.size_dict, Nat.add_sub_cancel_left,
        ← Nat.zero_add (Data.totalFields _ _ ds)] at hspends
      obtain ⟨b₁, hfirst, hrest⟩ := Spends.add_iff.mp hspends
      refine ⟨b₁, hfirst, not_mem_of_avoids h.avoids, (frozenFields ds, r.2), ⟨ds, hitems, ?_,
        h.height, h.fine.2, hrest, rfl⟩, Prod.ext h.result.symm rfl⟩
      intro q hq
      exact h.avoids.child h.denotes.not_cyclic ((hchild q.2).mpr (List.mem_map_of_mem hq))

theorem freezeValue_eq_ok_iff
    {f : List (Fin n) → Ref n → Budget → Except String (Frozen × Budget)}
    (hf : ∀ active v b r, f active v b = .ok r ↔ ∃ d, Copied u m left active d v b r)
    (active : List (Fin n)) (v : Ref n) (b : Budget) (r : Frozen × Budget) :
    freezeValue u m f active v b = .ok r ↔ ∃ d, CopiedValue u m left active d v b r := by
  cases v with
  | none =>
      rw [copiedValue_scalar_iff (fun _ => denotes_none) rfl (by simp) rfl rfl]
      simp only [freezeValue, bind_eq_ok, pure_eq_ok, consumeBytes_eq_ok, prod_eq_iff]
      exact (and_iff_right trivial).symm
  | bool x =>
      rw [copiedValue_scalar_iff (fun _ => denotes_bool) rfl (by simp) rfl rfl]
      simp only [freezeValue, bind_eq_ok, pure_eq_ok, consumeBytes_eq_ok, prod_eq_iff]
      exact (and_iff_right trivial).symm
  | float x =>
      rw [copiedValue_scalar_iff (fun _ => denotes_float) rfl (by simp) rfl rfl]
      simp only [freezeValue, bind_eq_ok, pure_eq_ok, consumeBytes_eq_ok, prod_eq_iff]
      exact (and_iff_right trivial).symm
  | int i =>
      rw [copiedValue_scalar_iff (fun _ => denotes_int) rfl (by simp) rfl rfl]
      simp only [freezeValue, bind_eq_ok, pure_eq_ok, ensure_eq_ok, exists_unit,
        consumeBytes_eq_ok, prod_eq_iff]
      exact Iff.rfl
  | text s =>
      rw [copiedValue_scalar_iff (fun _ => denotes_text) rfl (by simp) rfl rfl]
      simp only [freezeValue, bind_eq_ok, pure_eq_ok, boundedLiveText_eq_ok, consumeBytes_eq_ok,
        prod_eq_iff]
      constructor
      · rintro ⟨text, ⟨heq, hbounded⟩, hspends, hresult⟩
        cases heq
        exact ⟨hbounded, hspends, hresult⟩
      · rintro ⟨hbounded, hspends, hresult⟩
        exact ⟨s, ⟨rfl, hbounded⟩, hspends, hresult⟩
  | foreign =>
      constructor
      · intro h
        cases h
      · rintro ⟨d, h⟩
        exact absurd h.denotes not_denotes_foreign
  | container a =>
      simp only [freezeValue, bind_eq_ok, ensure_eq_ok, exists_unit, consumeBytes_eq_ok]
      cases hrefs : m.containers a with
      | sequence kind refs =>
          simp only [bind_eq_ok, pure_eq_ok]
          exact freezeSequence_eq_ok_iff (hf (a :: active)) hrefs b r
      | dict refs =>
          simp only [bind_eq_ok, pure_eq_ok]
          exact freezeDict_eq_ok_iff (hf (a :: active)) hrefs b r

theorem freeze_eq_ok_iff (left : ℕ) (active : List (Fin n)) (v : Ref n) (b : Budget)
    (r : Frozen × Budget) :
    freeze u m left active v b = .ok r ↔ ∃ d, Copied u m left active d v b r := by
  induction left generalizing active v b r with
  | zero =>
      refine iff_of_false ?_ ?_
      · intro h
        simp only [freeze, bind_eq_ok] at h
        obtain ⟨_, _, h⟩ := h
        cases h
      · rintro ⟨d, h⟩
        exact absurd h.height (Nat.not_lt_zero _)
  | succ left ih =>
      simp only [freeze, bind_eq_ok, consumeItem_eq_ok, freezeValue_eq_ok_iff ih]
      constructor
      · rintro ⟨b₁, hfirst, d, h⟩
        refine ⟨d, h.denotes, h.avoids, Nat.lt_succ_of_le h.height, h.fine, ?_, h.result⟩
        have hboth := Spends.add_iff.mpr ⟨b₁, hfirst, h.spends⟩
        rwa [Nat.add_sub_cancel' (one_le_size d), Nat.zero_add] at hboth
      · rintro ⟨d, h⟩
        have hspends := h.spends
        rw [← Nat.add_sub_cancel' (one_le_size d), ← Nat.zero_add (aggregateBytes d)] at hspends
        obtain ⟨b₁, hfirst, hrest⟩ := Spends.add_iff.mp hspends
        exact ⟨b₁, hfirst, d, h.denotes, h.avoids, Nat.le_of_lt_succ h.height, h.fine, hrest,
          h.result⟩

end

section

variable {n : ℕ} {u : Unicode} {m : Memory n}

theorem thawItems_frozenItems {ds : List Data} (h : ∀ d ∈ ds, thaw (frozen d) = d) :
    thawItems (frozenItems ds) = ds := by
  induction ds with
  | nil => rfl
  | cons d ds ih =>
      rw [frozenItems, thawItems, h d List.mem_cons_self,
        ih fun e he => h e (List.mem_cons_of_mem _ he)]

theorem thawFields_frozenFields {ds : List (CodePoints × Data)}
    (h : ∀ p ∈ ds, thaw (frozen p.2) = p.2) : thawFields (frozenFields ds) = ds := by
  induction ds with
  | nil => rfl
  | cons p ds ih =>
      rw [frozenFields, thawFields, h p List.mem_cons_self,
        ih fun e he => h e (List.mem_cons_of_mem _ he)]

theorem thaw_frozen {d : Data} (h : Keyed d) : thaw (frozen d) = d := by
  induction d using Data.induction with
  | sequence kind items ih =>
      have hitems := thawItems_frozenItems fun d hd => ih d hd (h.2.mem d hd)
      rw [frozen, thaw, hitems]
  | dict items ih =>
      have hitems := thawFields_frozenFields fun p hp => ih p hp (h.2.mem p hp)
      rw [frozen, thaw, hitems]
      exact congrArg Data.dict (congrArg Dict.entries (Dict.ofList_entries ⟨items, h.1⟩))
  | _ => rfl

/-! ### The whole metadata -/

structure WithinLimits (u : Unicode) (d : Data) : Prop where
  height : d.height ≤ maxLiveMetadataDepth
  fine : AllFine u d
  items : d.size ≤ maxLiveMetadataItems
  bytes : aggregateBytes d ≤ maxLiveMetadataAggregateBytes

theorem freezeLiveMetadata_eq_ok_iff {value : Ref n} {f : Frozen} :
    freezeLiveMetadata u m value = .ok f ↔
      isDict m value = true ∧ ∃ d, Denotes m d value ∧ WithinLimits u d ∧ f = frozen d := by
  simp only [freezeLiveMetadata, bind_eq_ok, ensure_eq_ok, exists_unit, pure_eq_ok,
    freeze_eq_ok_iff]
  refine and_congr_right fun _ => ?_
  constructor
  · rintro ⟨r, ⟨d, h⟩, rfl⟩
    exact ⟨d, h.denotes, ⟨Nat.le_of_lt_succ h.height, h.fine, h.spends.items_le,
      h.spends.bytes_le⟩, h.result⟩
  · rintro ⟨d, hd, hlimits, rfl⟩
    refine ⟨(frozen d, ⟨liveBudget.items - d.size, liveBudget.bytes - aggregateBytes d⟩),
      ⟨d, hd, ?_, Nat.lt_succ_of_le hlimits.height, hlimits.fine,
        ⟨hlimits.items, hlimits.bytes, rfl⟩, rfl⟩, rfl⟩
    exact fun _ ha => absurd ha List.not_mem_nil

theorem freezes_iff {value : Ref n} :
    (∃ f, freezeLiveMetadata u m value = .ok f) ↔
      isDict m value = true ∧ ¬ Cyclic m value ∧ ¬ HasForeign m value ∧
        ∀ d, Denotes m d value → WithinLimits u d := by
  simp only [freezeLiveMetadata_eq_ok_iff]
  constructor
  · rintro ⟨f, hdict, d, hd, hlimits, _⟩
    refine ⟨hdict, hd.not_cyclic, hd.not_hasForeign, fun e he => ?_⟩
    rw [denotes_unique he hd]
    exact hlimits
  · rintro ⟨hdict, hcycle, hforeign, hlimits⟩
    obtain ⟨d, hd⟩ := exists_denotes hcycle hforeign
    exact ⟨frozen d, hdict, d, hd, hlimits d hd, rfl⟩

theorem denotes_thaw {value : Ref n} {f : Frozen} (h : freezeLiveMetadata u m value = .ok f) :
    Denotes m (thaw f) value := by
  obtain ⟨_, d, hd, _, rfl⟩ := freezeLiveMetadata_eq_ok_iff.mp h
  rw [thaw_frozen (keyed_of_denotes hd)]
  exact hd

end

end Storage
end CryoDaq
