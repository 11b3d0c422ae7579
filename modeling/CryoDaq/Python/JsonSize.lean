import CryoDaq.Python.JsonReading

/-!
# The bytes of JSON texts

`textBytes` counts the bytes of a text in UTF-8, and `byteSize` those of what `dumps` writes of a
value.  `loadsBytes` reads a value from bytes.
-/

namespace CryoDaq
namespace Json

def textBytes (t : List Char) : ℕ := (String.ofList t).toUTF8.size

@[simp] theorem textBytes_nil : textBytes [] = 0 := rfl

theorem textBytes_append (t u : List Char) : textBytes (t ++ u) = textBytes t + textBytes u := by
  rw [textBytes, String.ofList_append]
  exact String.utf8ByteSize_append

theorem textBytes_cons (c : Char) (t : List Char) :
    textBytes (c :: t) = c.utf8Size + textBytes t := by
  have hone : textBytes [c] = c.utf8Size := String.utf8ByteSize_singleton
  rw [← List.singleton_append, textBytes_append, hone]

theorem textBytes_of_ascii {t : List Char} (h : ∀ c ∈ t, c.utf8Size = 1) :
    textBytes t = t.length := by
  induction t with
  | nil => rfl
  | cons c t ih =>
      rw [textBytes_cons, h c (List.mem_cons_self ..),
        ih fun d hd => h d (List.mem_cons_of_mem _ hd), List.length_cons, Nat.add_comm]

theorem length_le_textBytes (t : List Char) : t.length ≤ textBytes t := by
  induction t with
  | nil => exact le_refl _
  | cons c t ih =>
      have hpos := c.utf8Size_pos
      rw [textBytes_cons, List.length_cons]
      omega

theorem textBytes_commas (ts : List (List Char)) :
    textBytes (commas ts) = (ts.map textBytes).sum + (ts.length - 1) := by
  induction ts with
  | nil => rfl
  | cons t ts ih =>
      cases ts with
      | nil => simp [commas]
      | cons u ts =>
          have hcomma : ','.utf8Size = 1 := rfl
          rw [commas_cons, textBytes_append, textBytes_cons, ih, hcomma]
          simp only [List.map_cons, List.sum_cons, List.length_cons]
          omega

theorem textBytes_fieldText (k : String) (t : List Char) :
    textBytes (fieldText false (k, t)) =
      textBytes (stringText false k) + 1 + textBytes t := by
  have hcolon : ':'.utf8Size = 1 := rfl
  rw [fieldText, textBytes_append, textBytes_cons, hcolon, Nat.add_assoc]

theorem textBytes_stringText {s : String}
    (h : ∀ c ∈ s.toList, escapeChar false c = [c]) :
    textBytes (stringText false s) = s.utf8ByteSize + 2 := by
  have hplain : s.toList.flatMap (escapeChar false) = s.toList := by
    rw [List.flatMap_congr h, List.flatMap_singleton']
  have hsize : textBytes s.toList = s.utf8ByteSize := by
    rw [textBytes, String.ofList_toList]
    rfl
  have hquote : '"'.utf8Size = 1 := rfl
  rw [stringText, hplain, textBytes_append, textBytes_cons, hsize, textBytes_cons, hquote,
    textBytes_nil]
  omega

/-- A text whose characters are written as they are. -/
def Plain (s : String) : Bool := s.toList.all fun c => escapeChar false c = [c]

theorem textBytes_plain {s : String} (h : Plain s = true) :
    textBytes (stringText false s) = s.utf8ByteSize + 2 :=
  textBytes_stringText fun c hc => of_decide_eq_true (List.all_eq_true.mp h c hc)

theorem escapeChar_cases (c : Char) :
    (∃ d : Char, d.utf8Size = 1 ∧ escapeChar false c = ['\\', d]) ∨
      escapeChar false c = unicodeEscape c.toNat ∨ escapeChar false c = [c] := by
  rw [escapeChar]
  by_cases hquote : c = '"'
  · exact .inl ⟨'"', rfl, if_pos hquote⟩
  by_cases hslash : c = '\\'
  · exact .inl ⟨'\\', rfl, by rw [if_neg hquote, if_pos hslash]⟩
  rw [if_neg hquote, if_neg hslash]
  by_cases hline : c = '\n'
  · exact .inl ⟨'n', rfl, if_pos hline⟩
  by_cases hreturn : c = '\r'
  · exact .inl ⟨'r', rfl, by rw [if_neg hline, if_pos hreturn]⟩
  rw [if_neg hline, if_neg hreturn]
  by_cases htab : c = '\t'
  · exact .inl ⟨'t', rfl, if_pos htab⟩
  by_cases hfeed : c = '\x0c'
  · exact .inl ⟨'f', rfl, by rw [if_neg htab, if_pos hfeed]⟩
  rw [if_neg htab, if_neg hfeed]
  by_cases hback : c = '\x08'
  · exact .inl ⟨'b', rfl, if_pos hback⟩
  rw [if_neg hback]
  by_cases hcontrol : c.toNat < 32
  · exact .inr (.inl (if_pos hcontrol))
  · rw [if_neg hcontrol, if_neg fun h => Bool.false_ne_true h.1]
    exact .inr (.inr rfl)

theorem utf8Size_hexDigit : ∀ n < 16, (hexDigit n).utf8Size = 1 := by decide

theorem textBytes_unicodeEscape (n : ℕ) : textBytes (unicodeEscape n) = 6 := by
  have hdigit (m : ℕ) : (hexDigit (m % 16)).utf8Size = 1 :=
    utf8Size_hexDigit _ (Nat.mod_lt _ (by decide))
  have hmark : '\\'.utf8Size = 1 ∧ 'u'.utf8Size = 1 := ⟨rfl, rfl⟩
  simp only [unicodeEscape, textBytes_cons, hdigit, hmark, textBytes_nil]

theorem textBytes_escapeChar_le (c : Char) : textBytes (escapeChar false c) ≤ 6 := by
  rcases escapeChar_cases c with ⟨d, hd, heq⟩ | heq | heq
  · have hmark : '\\'.utf8Size = 1 := rfl
    rw [heq, textBytes_cons, textBytes_cons, textBytes_nil, hd, hmark]
    decide
  · rw [heq, textBytes_unicodeEscape]
  · have hwidth := c.utf8Size_le_four
    rw [heq, textBytes_cons, textBytes_nil]
    omega

theorem textBytes_stringText_le (s : String) :
    textBytes (stringText false s) ≤ 6 * s.toList.length + 2 := by
  have hchars (cs : List Char) : textBytes (cs.flatMap (escapeChar false)) ≤ 6 * cs.length := by
    induction cs with
    | nil => exact le_refl _
    | cons c cs ih =>
        have hc := textBytes_escapeChar_le c
        rw [List.flatMap_cons, textBytes_append, List.length_cons]
        omega
  have hquote : '"'.utf8Size = 1 := rfl
  have hs := hchars s.toList
  rw [stringText, textBytes_append, textBytes_cons, textBytes_cons, textBytes_nil, hquote]
  omega

theorem utf8Size_of_isDigit {c : Char} (h : c.isDigit = true) : c.utf8Size = 1 := by
  have hrange : 48 ≤ c.toNat ∧ c.toNat ≤ 57 := by
    simp only [Char.isDigit, Bool.and_eq_true, decide_eq_true_eq] at h
    exact h
  have hval : c.toNat ≤ 127 := by omega
  exact Char.utf8Size_eq_one_iff.mpr hval

theorem textBytes_repr {n : ℤ} (h : 0 ≤ n) :
    textBytes n.repr.toList = (FloatText.digits n.toNat).length := by
  rw [repr_toList, if_pos h]
  exact textBytes_of_ascii fun c hc => utf8Size_of_isDigit (FloatText.digits_all _ c hc)

/-! ## The bytes of values -/

mutual
/-- The bytes of what `dumps` writes. -/
def byteSize : Json → ℕ
  | null => 4
  | bool b => if b then 4 else 5
  | int n => textBytes n.repr.toList
  | float x => textBytes (FloatText.reprFloat x)
  | str s => textBytes (stringText false s)
  | arr items => byteSizeItems items + (items.length - 1) + 2
  | obj fields => byteSizeFields fields + (fields.length - 1) + 2

def byteSizeItems : List Json → ℕ
  | [] => 0
  | v :: rest => byteSize v + byteSizeItems rest

def byteSizeFields : List (String × Json) → ℕ
  | [] => 0
  | p :: rest => textBytes (stringText false p.1) + 1 + byteSize p.2 + byteSizeFields rest
end

theorem textBytes_enclosed (opening closing : Char) (hopening : opening.utf8Size = 1)
    (hclosing : closing.utf8Size = 1) (ts : List (List Char)) :
    textBytes (opening :: commas ts ++ [closing]) =
      (ts.map textBytes).sum + (ts.length - 1) + 2 := by
  rw [textBytes_append, textBytes_cons, textBytes_cons, textBytes_commas, textBytes_nil, hopening,
    hclosing]
  omega

theorem sum_items {items : List Json} {ts : List (List Char)}
    (h : List.Forall₂ (fun v t => textBytes t = byteSize v) items ts) :
    (ts.map textBytes).sum = byteSizeItems items := by
  induction h with
  | nil => rfl
  | cons hv _ ih => rw [List.map_cons, List.sum_cons, hv, ih, byteSizeItems]

theorem sum_fields {fields : List (String × Json)} {ts : List (String × List Char)}
    (h : List.Forall₂ (fun p q => q.1 = p.1 ∧ textBytes q.2 = byteSize p.2) fields ts) :
    (ts.map fun q => textBytes (fieldText false q)).sum = byteSizeFields fields := by
  induction h with
  | nil => rfl
  | @cons p q _ _ hp _ ih =>
      obtain ⟨k, t⟩ := q
      obtain ⟨rfl, ht⟩ := hp
      rw [List.map_cons, List.sum_cons, ih, textBytes_fieldText, ht, byteSizeFields]

theorem textBytes_dumps {v : Json} {t : List Char} (h : dumps false v = some t) :
    textBytes t = byteSize v := by
  induction v using Json.induction generalizing t with
  | null =>
      cases h
      rfl
  | bool b =>
      cases b <;> cases h <;> rfl
  | int n =>
      cases h
      rfl
  | float x =>
      rw [dumps] at h
      split at h
      case isTrue =>
        cases h
        rfl
      case isFalse => cases h
  | str s =>
      cases h
      rfl
  | arr items ih =>
      rw [dumps] at h
      obtain ⟨ts, hts, rfl⟩ := Option.map_eq_some_iff.mp h
      have hall : List.Forall₂ (fun v t => textBytes t = byteSize v) items ts :=
        ((List.forall₂_and_left items ts).mpr
          ⟨fun _ hmem => hmem, dumpsItems_eq_some.mp hts⟩).imp fun v t hvt => ih v hvt.1 hvt.2
      rw [textBytes_enclosed _ _ rfl rfl, byteSize, sum_items hall, hall.length_eq]
  | obj fields ih =>
      rw [dumps] at h
      obtain ⟨ts, hts, rfl⟩ := Option.map_eq_some_iff.mp h
      have hall : List.Forall₂ (fun p q => q.1 = p.1 ∧ textBytes q.2 = byteSize p.2) fields ts :=
        ((List.forall₂_and_left fields ts).mpr
          ⟨fun _ hmem => hmem, dumpsFields_eq_some.mp hts⟩).imp
            fun p q hpq => ⟨hpq.2.1.symm, ih p hpq.1 hpq.2.2⟩
      have hperm := perm_sortFields ts
      rw [textBytes_enclosed _ _ rfl rfl, byteSize, List.map_map, List.length_map,
        (hperm.map _).sum_nat, hperm.length_eq, hall.length_eq]
      exact congrArg (· + (ts.length - 1) + 2) (sum_fields hall)

theorem byteSize_obj_le {fields : List (String × Json)} (keys : List String) (bounds : List ℕ)
    (hkeys : fields.map Prod.fst = keys) (hplain : keys.all Plain = true)
    (h : List.Forall₂ (fun p b => byteSize p.2 ≤ b) fields bounds) :
    byteSize (obj fields) ≤ (keys.map fun k => k.utf8ByteSize + 4).sum + bounds.sum + 2 := by
  have hfields : byteSizeFields fields + fields.length ≤
      (keys.map fun k => k.utf8ByteSize + 4).sum + bounds.sum := by
    induction h generalizing keys with
    | nil => exact Nat.zero_le _
    | @cons p b fields bounds hb _ ih =>
        subst hkeys
        rw [List.map_cons, List.all_cons, Bool.and_eq_true] at hplain
        have hrest := ih _ rfl hplain.2
        have hkey := textBytes_plain hplain.1
        simp only [byteSizeFields, List.map_cons, List.sum_cons, List.length_cons]
        omega
  rw [byteSize]
  omega

/-! ## Values from bytes -/

/-- `json.loads` of bytes. -/
def loadsBytes (hooks : Hooks) (payload : ByteArray) : Option Json :=
  (String.fromUTF8? payload).bind fun text => loads hooks text.toList

theorem fromUTF8?_toUTF8 (s : String) : String.fromUTF8? s.toUTF8 = some s := by
  have hvalid : s.toUTF8.IsValidUTF8 := s.isValidUTF8
  rw [String.fromUTF8?, dif_pos hvalid]
  rfl

theorem insertField_eq_append {k : String} {v : Json} {fields : List (String × Json)}
    (h : k ∉ fields.map Prod.fst) : insertField k v fields = fields ++ [(k, v)] := by
  induction fields with
  | nil => rfl
  | cons p rest ih =>
      rw [List.map_cons, List.mem_cons, not_or] at h
      rw [insertField, if_neg (Ne.symm h.1), ih h.2, List.cons_append]

theorem foldl_insertField (fields acc : List (String × Json))
    (h : ((acc ++ fields).map Prod.fst).Nodup) :
    fields.foldl (fun fields p => insertField p.1 p.2 fields) acc = acc ++ fields := by
  induction fields generalizing acc with
  | nil => exact (List.append_nil acc).symm
  | cons p rest ih =>
      have hstep : acc ++ [(p.1, p.2)] ++ rest = acc ++ p :: rest := by
        rw [List.append_assoc, List.singleton_append]
      have hnot : p.1 ∉ acc.map Prod.fst := by
        rw [List.map_append, List.map_cons] at h
        exact fun hmem => List.disjoint_of_nodup_append h hmem (List.mem_cons_self ..)
      rw [List.foldl_cons, insertField_eq_append hnot, ih _ (by rw [hstep]; exact h), hstep]

theorem Hooks.plain_faithful : Hooks.plain.Faithful where
  pairs fields hnodup := congrArg some (foldl_insertField fields [] hnodup)
  float _ _ := rfl

theorem exists_dumps_obj {fields : List (String × Json)}
    (h : ∀ p ∈ fields, ∃ t, dumps false p.2 = some t) :
    ∃ t, dumps false (obj fields) = some t := by
  suffices hfields : ∃ ts, dumpsFields false fields = some ts by
    obtain ⟨ts, hts⟩ := hfields
    exact ⟨_, by rw [dumps, hts, Option.map_some]⟩
  induction fields with
  | nil => exact ⟨[], rfl⟩
  | cons p rest ih =>
      obtain ⟨t, ht⟩ := h p (List.mem_cons_self ..)
      obtain ⟨ts, hts⟩ := ih fun q hq => h q (List.mem_cons_of_mem _ hq)
      exact ⟨(p.1, t) :: ts, by rw [dumpsFields, ht, Option.bind_some, hts, Option.map_some]⟩

theorem Distinct.sorted {v : Json} (h : Distinct v) : Distinct v.sorted := by
  induction h with
  | null => exact .null
  | bool b => exact .bool b
  | int n => exact .int n
  | float x => exact .float x
  | str s => exact .str s
  | arr _ ih =>
      rw [Json.sorted, sortedItems_eq_map]
      exact .arr (List.forall_mem_map.mpr ih)
  | obj hnodup _ ih =>
      rw [Json.sorted]
      refine .obj (nodup_sortFields (by rw [map_fst_sortedFields]; exact hnodup)) fun p hp => ?_
      rw [(perm_sortFields _).mem_iff, sortedFields_eq_map] at hp
      obtain ⟨q, hq, rfl⟩ := List.mem_map.mp hp
      exact ih q hq

theorem sorted_sorted (v : Json) : v.sorted.sorted = v.sorted := by
  induction v using Json.induction with
  | null => rfl
  | bool b => rfl
  | int n => rfl
  | float x => rfl
  | str s => rfl
  | arr items ih =>
      rw [sorted, sorted, sortedItems_eq_map, sortedItems_eq_map, List.map_map]
      exact congrArg arr (List.map_congr_left ih)
  | obj fields ih =>
      have hvalues : ∀ p ∈ sortFields (sortedFields fields), (p.1, p.2.sorted) = p := by
        intro p hp
        rw [(perm_sortFields _).mem_iff, sortedFields_eq_map] at hp
        obtain ⟨q, hq, rfl⟩ := List.mem_map.mp hp
        exact congrArg (q.1, ·) (ih q hq)
      rw [sorted, sorted, sortedFields_eq_map (sortFields _),
        (List.map_congr_left hvalues).trans (List.map_id' _), sortFields_idem]

theorem lookup_sorted {fields : List (String × Json)} (h : (fields.map Prod.fst).Nodup)
    (k : String) :
    (sortFields (sortedFields fields)).lookup k = (fields.lookup k).map sorted := by
  rw [lookup_sortFields (by rw [map_fst_sortedFields]; exact h), lookup_sortedFields]

theorem mem_keys_sorted {fields : List (String × Json)} (k : String) :
    k ∈ (sortFields (sortedFields fields)).map Prod.fst ↔ k ∈ fields.map Prod.fst := by
  rw [((perm_sortFields (sortedFields fields)).map Prod.fst).mem_iff, map_fst_sortedFields]

end Json
end CryoDaq
