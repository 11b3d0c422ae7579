import CryoDaq.Python.Dict
import CryoDaq.Python.FloatReading
import CryoDaq.Python.Json

/-!
# What JSON writes reads back

`loads` of the text that `dumps` writes is the value with the fields of every object in the order
of their keys, so two values with one text are the same up to the order of fields.

**Reading on.**  `Reads v t` says that a reader that meets `t` takes the value `v` and stops after
it, whatever comes next, as long as a number does not go on.
-/

namespace CryoDaq
namespace Json

open FloatText

theorem induction {motive : Json → Prop} (null : motive null) (bool : ∀ b, motive (bool b))
    (int : ∀ n, motive (int n)) (float : ∀ x, motive (float x)) (str : ∀ s, motive (str s))
    (arr : ∀ items, (∀ v ∈ items, motive v) → motive (arr items))
    (obj : ∀ fields, (∀ p ∈ fields, motive p.2) → motive (obj fields)) (v : Json) : motive v := by
  refine @Json.rec motive (fun items => ∀ v ∈ items, motive v)
    (fun fields => ∀ p ∈ fields, motive p.2) (fun p => motive p.2) null bool int float str arr obj
    ?_ ?_ ?_ ?_ (fun _ _ h => h) v
  · exact fun _ h => absurd h List.not_mem_nil
  · intro w rest hw hrest x hx
    rcases List.mem_cons.mp hx with rfl | hx
    · exact hw
    · exact hrest x hx
  · exact fun _ h => absurd h List.not_mem_nil
  · intro p rest hp hrest x hx
    rcases List.mem_cons.mp hx with rfl | hx
    · exact hp
    · exact hrest x hx

mutual
/-- A value with the fields of every object in the order of their keys. -/
def sorted : Json → Json
  | arr items => arr (sortedItems items)
  | obj fields => obj (sortFields (sortedFields fields))
  | null => null
  | bool b => bool b
  | int n => int n
  | float x => float x
  | str s => str s

def sortedItems : List Json → List Json
  | [] => []
  | v :: rest => sorted v :: sortedItems rest

def sortedFields : List (String × Json) → List (String × Json)
  | [] => []
  | p :: rest => (p.1, sorted p.2) :: sortedFields rest
end

theorem sortedItems_eq_map (items : List Json) : sortedItems items = items.map sorted := by
  induction items with
  | nil => rfl
  | cons v rest ih => rw [sortedItems, ih, List.map_cons]

theorem sortedFields_eq_map (fields : List (String × Json)) :
    sortedFields fields = fields.map fun p => (p.1, sorted p.2) := by
  induction fields with
  | nil => rfl
  | cons p rest ih => rw [sortedFields, ih, List.map_cons]

/-- Equal up to the order of fields. -/
def Same (v w : Json) : Prop := v.sorted = w.sorted

/-- Every object has one field for each key. -/
inductive Distinct : Json → Prop
  | null : Distinct null
  | bool (b : Bool) : Distinct (bool b)
  | int (n : ℤ) : Distinct (int n)
  | float (x : Float) : Distinct (float x)
  | str (s : String) : Distinct (str s)
  | arr {items : List Json} : (∀ v ∈ items, Distinct v) → Distinct (arr items)
  | obj {fields : List (String × Json)} : (fields.map Prod.fst).Nodup →
      (∀ p ∈ fields, Distinct p.2) → Distinct (obj fields)

section SortFields

variable {α β : Type}

theorem forall₂_sortFields {R : String × α → String × β → Prop} (hkeys : ∀ p q, R p q → p.1 = q.1)
    {l : List (String × α)} {m : List (String × β)} (h : List.Forall₂ R l m) :
    List.Forall₂ R (sortFields l) (sortFields m) := by
  have hinsert {p : String × α} {q : String × β} (hpq : R p q) {l : List (String × α)}
      {m : List (String × β)} (h : List.Forall₂ R l m) :
      List.Forall₂ R (l.orderedInsert (fun p q => p.1 ≤ q.1) p)
        (m.orderedInsert (fun p q => p.1 ≤ q.1) q) := by
    induction h with
    | nil => exact .cons hpq .nil
    | @cons a b l m hab hlm ih =>
        rw [List.orderedInsert, List.orderedInsert, hkeys p q hpq, hkeys a b hab]
        split
        · exact .cons hpq (.cons hab hlm)
        · exact .cons hab ih
  induction h with
  | nil => exact .nil
  | cons hab _ ih => exact hinsert hab ih

theorem perm_sortFields (l : List (String × α)) : (sortFields l).Perm l :=
  List.perm_insertionSort _ l

theorem nodup_sortFields {l : List (String × α)} (h : (l.map Prod.fst).Nodup) :
    ((sortFields l).map Prod.fst).Nodup :=
  ((perm_sortFields l).map Prod.fst).nodup_iff.mpr h

theorem sortFields_of_sorted {l : List (String × α)} (h : l.Pairwise fun p q => p.1 ≤ q.1) :
    sortFields l = l :=
  h.insertionSort_eq

theorem pairwise_sortFields (l : List (String × α)) :
    (sortFields l).Pairwise fun p q => p.1 ≤ q.1 := by
  have htotal : Std.Total fun p q : String × α => p.1 ≤ q.1 := ⟨fun p q => le_total p.1 q.1⟩
  have htrans : IsTrans (String × α) fun p q => p.1 ≤ q.1 := ⟨fun _ _ _ h h' => le_trans h h'⟩
  exact List.pairwise_insertionSort _ l

theorem sortFields_idem (l : List (String × α)) : sortFields (sortFields l) = sortFields l :=
  sortFields_of_sorted (pairwise_sortFields l)

end SortFields

theorem hexValue_hexDigit : ∀ n < 16, hexValue (hexDigit n) = some n := by decide

theorem readHex_unicodeEscape {n : ℕ} (hn : n < 65536) (rest : List Char) :
    readHex ([hexDigit (n / 4096 % 16), hexDigit (n / 256 % 16), hexDigit (n / 16 % 16),
      hexDigit (n % 16)] ++ rest) = some (n, rest) := by
  have hvalue : n / 4096 % 16 * 4096 + n / 256 % 16 * 256 + n / 16 % 16 * 16 + n % 16 = n := by
    omega
  simp [readHex, hexValue_hexDigit _ (Nat.mod_lt _ (by decide : 0 < 16)), hvalue]

theorem readChar_escapeChar (c : Char) (rest : List Char) :
    readChar (escapeChar false c ++ rest) = some (some c, rest) := by
  rw [escapeChar]
  by_cases hquote : c = '"'
  · rw [if_pos hquote, hquote]
    rfl
  by_cases hslash : c = '\\'
  · rw [if_neg hquote, if_pos hslash, hslash]
    rfl
  rw [if_neg hquote, if_neg hslash]
  by_cases hline : c = '\n'
  · rw [if_pos hline, hline]
    rfl
  by_cases hreturn : c = '\r'
  · rw [if_neg hline, if_pos hreturn, hreturn]
    rfl
  by_cases htab : c = '\t'
  · rw [if_neg hline, if_neg hreturn, if_pos htab, htab]
    rfl
  rw [if_neg hline, if_neg hreturn, if_neg htab]
  by_cases hfeed : c = '\x0c'
  · rw [if_pos hfeed, hfeed]
    rfl
  by_cases hback : c = '\x08'
  · rw [if_neg hfeed, if_pos hback, hback]
    rfl
  rw [if_neg hfeed, if_neg hback]
  by_cases hcontrol : c.toNat < 32
  · have hread : readUnicode ([hexDigit (c.toNat / 4096 % 16), hexDigit (c.toNat / 256 % 16),
        hexDigit (c.toNat / 16 % 16), hexDigit (c.toNat % 16)] ++ rest) = some (c, rest) := by
      rw [readUnicode, readHex_unicodeEscape (by omega), Option.bind_some,
        if_neg (by simp only; omega), if_neg (by simp only; omega)]
      exact congrArg (fun d => some (d, rest)) c.ofNat_toNat
    rw [if_pos hcontrol]
    exact congrArg (Option.map fun p => (some p.1, p.2)) hread
  · rw [if_neg hcontrol, if_neg fun h => Bool.false_ne_true h.1]
    change readChar (c :: rest) = _
    rw [readChar, if_neg hquote, if_neg hslash, if_neg hcontrol]

theorem escapeChar_ne_nil (c : Char) : 1 ≤ (escapeChar false c).length := by
  refine List.length_pos_iff.mpr fun hnil => ?_
  have hread := readChar_escapeChar c []
  rw [hnil] at hread
  cases hread

theorem readString_chars (cs rest : List Char) {fuel : ℕ}
    (hfuel : (cs.flatMap (escapeChar false)).length < fuel) :
    readString fuel (cs.flatMap (escapeChar false) ++ '"' :: rest) = some (cs, rest) := by
  induction cs generalizing fuel with
  | nil =>
      obtain ⟨n, rfl⟩ : ∃ n, fuel = n + 1 := ⟨fuel - 1, by omega⟩
      rfl
  | cons c cs ih =>
      obtain ⟨n, rfl⟩ : ∃ n, fuel = n + 1 := ⟨fuel - 1, by omega⟩
      rw [List.flatMap_cons, List.length_append] at hfuel
      have hlength := escapeChar_ne_nil c
      rw [List.flatMap_cons, List.append_assoc, readString, readChar_escapeChar,
        Option.bind_some]
      simp only [ih (show (cs.flatMap (escapeChar false)).length < n by omega), Option.map_some]

theorem readString_stringText (s : String) (rest : List Char) :
    ∃ r, stringText false s ++ rest = '"' :: r ∧
      readString (r.length + 1) r = some (s.toList, rest) := by
  refine ⟨s.toList.flatMap (escapeChar false) ++ '"' :: rest, ?_, ?_⟩
  · rw [stringText, List.cons_append, List.cons_append, List.append_assoc]
    rfl
  · refine readString_chars _ _ ?_
    rw [List.length_append]
    omega

theorem isNumberChar_of_numeral {c : Char} (h : Numeral c) : isNumberChar c = true := by
  rcases h with hdigit | rfl | rfl | rfl | rfl
  · rw [isNumberChar, hdigit]
    rfl
  all_goals rfl

/-- A text that no other reader takes. -/
structure NumberText (t : List Char) : Prop where
  numerals : ∀ c ∈ t, isNumberChar c = true
  first : ∃ c rest, t = c :: rest ∧
    (c.isDigit = true ∨ c = '-' ∧ ∃ d rest', rest = d :: rest' ∧ d.isDigit = true)

def Ends (s : List Char) : Prop := ∀ c ∈ s.head?, isNumberChar c = false

theorem span_number {t rest : List Char} (ht : ∀ c ∈ t, isNumberChar c = true)
    (hrest : Ends rest) : (t ++ rest).takeWhile isNumberChar = t ∧
      (t ++ rest).dropWhile isNumberChar = rest := by
  rw [List.takeWhile_append_of_pos ht, List.dropWhile_append_of_pos ht]
  cases rest with
  | nil => exact ⟨List.append_nil t, rfl⟩
  | cons c rest =>
      have hc := hrest c rfl
      rw [List.takeWhile_cons, List.dropWhile_cons, hc]
      exact ⟨List.append_nil t, rfl⟩

variable {hooks : Hooks}

theorem find_words {c : Char} {u : List Char}
    (h : c.isDigit = true ∨ c = '-' ∧ ∃ d v, u = d :: v ∧ d.isDigit = true) :
    (words hooks).find? (fun w => w.1.isPrefixOf (c :: u)) = none := by
  have hstop {a e : Char} {l v : List Char} (h : (a == e) = false) :
      ¬ (a :: l).isPrefixOf (e :: v) = true := by
    rw [List.isPrefixOf_cons_cons, h, Bool.false_and]
    exact Bool.false_ne_true
  have hne {a e : Char} (ha : a.isDigit = false) (he : e.isDigit = true) : (a == e) = false :=
    beq_eq_false_iff_ne.mpr fun heq => Bool.false_ne_true (ha.symm.trans (heq ▸ he))
  refine List.find?_eq_none.mpr fun w hw => ?_
  simp only [words, List.mem_cons, List.not_mem_nil, or_false] at hw
  rcases h with hc | ⟨rfl, d, v, rfl, hd⟩
  · rcases hw with rfl | rfl | rfl | rfl | rfl | rfl
    all_goals exact hstop (hne (by decide) hc)
  · rcases hw with rfl | rfl | rfl | rfl | rfl | rfl
    case inr.inr.inr.inr.inr =>
      rw [List.isPrefixOf_cons_cons, beq_self_eq_true, Bool.true_and]
      exact hstop (hne (by decide) hd)
    all_goals exact hstop (by decide)

theorem readValue_number {t rest : List Char} (ht : NumberText t) (hrest : Ends rest) (fuel : ℕ) :
    readValue hooks (fuel + 1) (t ++ rest) = (readNumber hooks t).map fun v => (v, rest) := by
  obtain ⟨htake, hdrop⟩ := span_number ht.numerals hrest
  obtain ⟨c, u, rfl, hfirst⟩ := ht.first
  have hwords : (words hooks).find? (fun w => w.1.isPrefixOf (c :: (u ++ rest))) = none := by
    refine find_words ?_
    rcases hfirst with hdigit | ⟨hminus, d, v, rfl, hdigit⟩
    · exact .inl hdigit
    · exact .inr ⟨hminus, d, v ++ rest, rfl, hdigit⟩
  -- the first character is none of those that start other values
  have hdigits (d : Char) (hd : d.isDigit = false) (hminus : d ≠ '-') : c ≠ d := by
    rintro rfl
    rcases hfirst with hdigit | ⟨rfl, _⟩
    · exact Bool.false_ne_true (hd.symm.trans hdigit)
    · exact hminus rfl
  rw [List.cons_append] at htake hdrop ⊢
  rw [readValue, readScalar, hwords, htake, hdrop]
  all_goals exact fun r heq => hdigits _ rfl (by decide) (List.cons.inj heq).1

theorem leadingZero_of_ne {c : Char} (h : c ≠ '0') (rest : List Char) :
    leadingZero (c :: rest) = false := by
  rw [leadingZero]
  rintro d u ⟨⟩
  exact h rfl

theorem leadingZero_spelled {t : List Char} (h : Spelled t) : leadingZero t = false := by
  obtain ⟨c, rest, rfl, _, hzero⟩ := h.first
  by_cases hc : c = '0'
  · cases rest with
    | nil => rw [hc]; rfl
    | cons d rest => rw [hc]; exact hzero hc d rfl
  · exact leadingZero_of_ne hc rest

theorem head_ne_minus {c : Char} (h : c.isDigit = true) : c ≠ '-' := by
  rintro rfl
  exact absurd h (by decide)

theorem readNumber_signed {t : List Char} (h : Signed t) :
    readNumber hooks t = (readFloat t).bind hooks.float := by
  have hmark {u : List Char} (hu : Spelled u) :
      (u.any fun c => c = '.' || c = 'e' || c = 'E') = true := by
    rw [List.any_eq_true]
    rcases hu.marked with hmem | hmem
    · exact ⟨_, hmem, rfl⟩
    · exact ⟨_, hmem, rfl⟩
  rcases h with h | ⟨u, rfl, h⟩
  · have hzero := leadingZero_spelled h
    have hmarked := hmark h
    obtain ⟨c, rest, rfl, hc, _⟩ := h.first
    have hminus : (decide ((c :: rest).head? = some '-')) = false :=
      decide_eq_false fun heq => head_ne_minus hc (Option.some.inj heq)
    rw [readNumber, hzero, hminus, Bool.and_false, Bool.or_false, if_neg Bool.false_ne_true,
      if_pos hmarked]
  · rw [readNumber, leadingZero_of_ne (by decide), List.tail_cons, leadingZero_spelled h,
      Bool.false_and, Bool.or_false, if_neg Bool.false_ne_true, if_pos]
    rw [List.any_cons, hmark h, Bool.or_true]

theorem number_of_spelled {t : List Char} (h : Spelled t) : NumberText t := by
  obtain ⟨c, rest, heq, hc, _⟩ := h.first
  exact ⟨fun d hd => isNumberChar_of_numeral (h.numerals d hd), c, rest, heq, .inl hc⟩

theorem number_of_signed {t : List Char} (h : Signed t) : NumberText t := by
  rcases h with h | ⟨u, rfl, h⟩
  · exact number_of_spelled h
  · obtain ⟨c, rest, heq, hc, _⟩ := h.first
    refine ⟨fun d hd => ?_, '-', u, rfl, .inr ⟨rfl, c, rest, heq, hc⟩⟩
    rcases List.mem_cons.mp hd with rfl | hd
    · rfl
    · exact isNumberChar_of_numeral (h.numerals d hd)

theorem number_digits (n : ℕ) : NumberText (digits n) := by
  obtain ⟨c, rest, heq⟩ := List.exists_cons_of_ne_nil (digits_ne_nil n)
  refine ⟨fun d hd => isNumberChar_of_numeral (.inl (digits_all n d hd)), c, rest, heq, .inl ?_⟩
  exact digits_all n c (by rw [heq]; exact List.mem_cons_self ..)

theorem leadingZero_digits (n : ℕ) : leadingZero (digits n) = false := by
  rcases Nat.eq_zero_or_pos n with rfl | hn
  · rfl
  · obtain ⟨c, rest, heq, hc⟩ := digits_head hn
    rw [heq]
    exact leadingZero_of_ne hc rest

theorem any_mark_digits (n : ℕ) :
    ((digits n).any fun c => c = '.' || c = 'e' || c = 'E') = false := by
  rw [List.any_eq_false]
  intro c hc hmark
  have hdigit := digits_all n c hc
  rw [Bool.or_eq_true, Bool.or_eq_true, decide_eq_true_iff, decide_eq_true_iff,
    decide_eq_true_iff] at hmark
  rcases hmark with (rfl | rfl) | rfl
  all_goals exact absurd hdigit (by decide)

theorem repr_toList (n : ℤ) : n.repr.toList = if 0 ≤ n then digits n.toNat
    else '-' :: digits (-n).toNat := by
  cases n with
  | ofNat m => exact Nat.toList_repr
  | negSucc m =>
      change ("-" ++ (m + 1).repr).toList = _
      rw [String.toList_append, Nat.toList_repr]
      rfl

theorem number_repr (n : ℤ) : NumberText n.repr.toList := by
  rw [repr_toList]
  split
  case isTrue => exact number_digits _
  case isFalse =>
    obtain ⟨hnumerals, c, rest, heq, hfirst⟩ := number_digits (-n).toNat
    refine ⟨fun d hd => ?_, '-', _, rfl, .inr ⟨rfl, c, rest, heq, ?_⟩⟩
    · rcases List.mem_cons.mp hd with rfl | hd
      · rfl
      · exact hnumerals d hd
    · exact digits_all _ c (by rw [heq]; exact List.mem_cons_self ..)

theorem readNumber_repr (n : ℤ) : readNumber hooks n.repr.toList = some (.int n) := by
  rw [repr_toList]
  split
  case isTrue hn =>
    obtain ⟨c, rest, heq⟩ := List.exists_cons_of_ne_nil (digits_ne_nil n.toNat)
    have hc : c.isDigit = true := digits_all n.toNat c (by rw [heq]; exact List.mem_cons_self ..)
    have hminus : (decide ((digits n.toNat).head? = some '-')) = false := by
      rw [heq]
      exact decide_eq_false fun h => head_ne_minus hc (Option.some.inj h)
    have hread : readInt (digits n.toNat) = some n := by
      have hback : (n.toNat : ℤ) = n := Int.toNat_of_nonneg hn
      have hplain : readInt (digits n.toNat) =
          (readDecimal (digits n.toNat)).map fun m => (m : ℤ) := by
        rw [heq, readInt]
        rintro ds ⟨⟩
        exact absurd hc (by decide)
      rw [hplain, readDecimal_digits]
      exact congrArg some hback
    rw [readNumber, leadingZero_digits, hminus, Bool.and_false, Bool.or_false,
      if_neg Bool.false_ne_true, if_neg (Bool.eq_false_iff.mp (any_mark_digits _)), hread]
    rfl
  case isFalse hn =>
    have hread : readInt ('-' :: digits (-n).toNat) = some n := by
      have hback : -((-n).toNat : ℤ) = n := by omega
      rw [readInt, readDecimal_digits]
      exact congrArg some hback
    rw [readNumber, leadingZero_of_ne (by decide), List.tail_cons, leadingZero_digits,
      Bool.false_and, Bool.or_false, if_neg Bool.false_ne_true, if_neg, hread]
    · rfl
    · rw [List.any_cons, any_mark_digits]
      decide

/-- A reader that meets the text takes the value and stops after it. -/
def Reads (hooks : Hooks) (v : Json) (t : List Char) : Prop :=
  ∀ rest fuel, Ends rest → 2 * (t ++ rest).length < fuel →
    readValue hooks fuel (t ++ rest) = some (v, rest)

/-- A text that starts with neither space nor a closing bracket. -/
def Token (t : List Char) : Prop :=
  ∃ c u, t = c :: u ∧ c ≠ ' ' ∧ c ≠ '\t' ∧ c ≠ '\n' ∧ c ≠ '\r' ∧ c ≠ ']'

theorem Token.skipSpace {t : List Char} (h : Token t) (rest : List Char) :
    skipSpace (t ++ rest) = t ++ rest := by
  obtain ⟨c, u, rfl, h₁, h₂, h₃, h₄, _⟩ := h
  rw [List.cons_append, Json.skipSpace, List.dropWhile_cons_of_neg]
  simp [h₁, h₂, h₃, h₄]

theorem Token.append {t : List Char} (h : Token t) (rest : List Char) : Token (t ++ rest) := by
  obtain ⟨c, u, rfl, hc⟩ := h
  exact ⟨c, u ++ rest, rfl, hc⟩

theorem commas_cons (t u : List Char) (ts : List (List Char)) :
    commas (t :: u :: ts) = t ++ ',' :: commas (u :: ts) := rfl

theorem token_commas {t : List Char} (h : Token t) (ts : List (List Char)) :
    Token (commas (t :: ts)) := by
  cases ts with
  | nil => exact h
  | cons u ts => exact h.append _

theorem token_of_number {t : List Char} (h : NumberText t) : Token t := by
  obtain ⟨c, u, rfl, hc⟩ := h.first
  have hne (d : Char) (hd : d.isDigit = false) (hminus : d ≠ '-') : c ≠ d := by
    rintro rfl
    rcases hc with hdigit | ⟨rfl, _⟩
    · exact Bool.false_ne_true (hd.symm.trans hdigit)
    · exact hminus rfl
  exact ⟨c, u, rfl, hne _ rfl (by decide), hne _ rfl (by decide), hne _ rfl (by decide),
    hne _ rfl (by decide), hne _ rfl (by decide)⟩

theorem ends_comma (s : List Char) : Ends (',' :: s) := by
  rintro c ⟨⟩
  rfl

theorem ends_bracket (s : List Char) : Ends (']' :: s) := by
  rintro c ⟨⟩
  rfl

theorem ends_brace (s : List Char) : Ends ('\x7d' :: s) := by
  rintro c ⟨⟩
  rfl

theorem readItems_commas {vs : List Json} {ts : List (List Char)}
    (h : List.Forall₂ (fun v t => Reads hooks v t ∧ Token t) vs ts) (hne : ts ≠ [])
    (rest : List Char) (fuel : ℕ)
    (hfuel : 2 * (commas ts ++ ']' :: rest).length + 1 < fuel) :
    readItems hooks fuel (commas ts ++ ']' :: rest) = some (vs, rest) := by
  induction h generalizing fuel with
  | nil => exact absurd rfl hne
  | @cons v t vs ts hhead htail ih =>
      obtain ⟨n, rfl⟩ : ∃ n, fuel = n + 1 := ⟨fuel - 1, by omega⟩
      cases ts with
      | nil =>
          cases htail
          rw [commas] at hfuel ⊢
          rw [readItems, hhead.1 _ n (ends_bracket rest) (by omega)]
          rfl
      | cons u ts =>
          rw [commas_cons, List.append_assoc, List.cons_append] at hfuel ⊢
          have hlength : 2 * (commas (u :: ts) ++ ']' :: rest).length + 1 < n := by
            rw [List.length_append, List.length_cons] at hfuel
            omega
          have htoken : Token (commas (u :: ts)) := by
            cases htail with
            | cons hu _ => exact token_commas hu.2 ts
          have hspace : Json.skipSpace (',' :: (commas (u :: ts) ++ ']' :: rest)) =
              ',' :: (commas (u :: ts) ++ ']' :: rest) := rfl
          rw [readItems, hhead.1 _ n (ends_comma _) (by omega), Option.bind_some]
          simp only [hspace, htoken.skipSpace, ih (List.cons_ne_nil _ _) n hlength]
          rfl

theorem readFields_commas {fs : List (String × Json)} {ts : List (String × List Char)}
    (h : List.Forall₂ (fun p q => p.1 = q.1 ∧ Reads hooks p.2 q.2 ∧ Token q.2) fs ts)
    (hne : ts ≠ []) (rest : List Char) (fuel : ℕ)
    (hfuel : 2 * (commas (ts.map (fieldText false)) ++ '\x7d' :: rest).length + 1 < fuel) :
    readFields hooks fuel (commas (ts.map (fieldText false)) ++ '\x7d' :: rest) =
      some (fs, rest) := by
  induction h generalizing fuel with
  | nil => exact absurd rfl hne
  | @cons p q fs ts hhead htail ih =>
      obtain ⟨hkey, hreads, htoken⟩ := hhead
      obtain ⟨n, rfl⟩ : ∃ n, fuel = n + 1 := ⟨fuel - 1, by omega⟩
      cases ts with
      | nil =>
          cases htail
          obtain ⟨r, hr, hread⟩ := readString_stringText q.1 (':' :: q.2 ++ '\x7d' :: rest)
          have htext : commas ([q].map (fieldText false)) ++ '\x7d' :: rest = '"' :: r := by
            rw [← hr, List.map_singleton, commas, fieldText, List.append_assoc]
          have hspace : Json.skipSpace (':' :: q.2 ++ '\x7d' :: rest) =
              ':' :: (q.2 ++ '\x7d' :: rest) := rfl
          have hlength : 2 * (q.2 ++ '\x7d' :: rest).length < n := by
            rw [htext, ← hr, List.length_append, List.cons_append, List.length_cons] at hfuel
            omega
          rw [htext, readFields, hread, Option.bind_some]
          simp only [hspace, htoken.skipSpace, hreads _ n (ends_brace rest) hlength,
            Option.bind_some, String.ofList_toList, ← hkey]
          rfl
      | cons u ts =>
          obtain ⟨r, hr, hread⟩ := readString_stringText q.1
            (':' :: q.2 ++ ',' :: (commas ((u :: ts).map (fieldText false)) ++ '\x7d' :: rest))
          have htext : commas ((q :: u :: ts).map (fieldText false)) ++ '\x7d' :: rest =
              '"' :: r := by
            rw [← hr, List.map_cons, List.map_cons, commas_cons, fieldText, List.append_assoc,
              List.append_assoc]
            rfl
          have hspace : Json.skipSpace
              (':' :: q.2 ++ ',' :: (commas ((u :: ts).map (fieldText false)) ++ '\x7d' :: rest)) =
              ':' :: (q.2 ++ ',' :: (commas ((u :: ts).map (fieldText false)) ++ '\x7d' :: rest)) :=
            rfl
          have hcomma : Json.skipSpace
              (',' :: (commas ((u :: ts).map (fieldText false)) ++ '\x7d' :: rest)) =
              ',' :: (commas ((u :: ts).map (fieldText false)) ++ '\x7d' :: rest) := rfl
          have hlength : 2 * (q.2 ++ ',' :: (commas ((u :: ts).map (fieldText false)) ++
              '\x7d' :: rest)).length < n := by
            rw [htext, ← hr, List.length_append, List.cons_append, List.length_cons] at hfuel
            omega
          have hlater : 2 * (commas ((u :: ts).map (fieldText false)) ++ '\x7d' :: rest).length +
              1 < n := by
            rw [List.length_append, List.length_cons] at hlength
            omega
          have hkeyToken : Token (commas ((u :: ts).map (fieldText false))) :=
            token_commas ⟨'"', _, rfl, by decide⟩ _
          rw [htext, readFields, hread, Option.bind_some]
          simp only [hspace, htoken.skipSpace, hreads _ n (ends_comma _) hlength,
            Option.bind_some, String.ofList_toList, hcomma, hkeyToken.skipSpace,
            ih (List.cons_ne_nil _ _) n hlater, ← hkey]
          rfl

/-! ## Writing and reading -/

theorem dumpsItems_eq_some {ascii : Bool} {items : List Json} {ts : List (List Char)} :
    dumpsItems ascii items = some ts ↔
      List.Forall₂ (fun v t => dumps ascii v = some t) items ts := by
  induction items generalizing ts with
  | nil => rw [dumpsItems, List.forall₂_nil_left_iff, Option.some.injEq, eq_comm]
  | cons v rest ih =>
      rw [dumpsItems, List.forall₂_cons_left_iff, Option.bind_eq_some_iff]
      constructor
      · rintro ⟨t, ht, hrest⟩
        obtain ⟨us, hus, rfl⟩ := Option.map_eq_some_iff.mp hrest
        exact ⟨t, us, ht, ih.mp hus, rfl⟩
      · rintro ⟨t, us, ht, hus, rfl⟩
        exact ⟨t, ht, Option.map_eq_some_iff.mpr ⟨us, ih.mpr hus, rfl⟩⟩

theorem dumpsFields_eq_some {ascii : Bool} {fields : List (String × Json)}
    {ts : List (String × List Char)} : dumpsFields ascii fields = some ts ↔
      List.Forall₂ (fun p q => p.1 = q.1 ∧ dumps ascii p.2 = some q.2) fields ts := by
  induction fields generalizing ts with
  | nil => rw [dumpsFields, List.forall₂_nil_left_iff, Option.some.injEq, eq_comm]
  | cons p rest ih =>
      rw [dumpsFields, List.forall₂_cons_left_iff, Option.bind_eq_some_iff]
      constructor
      · rintro ⟨t, ht, hrest⟩
        obtain ⟨us, hus, rfl⟩ := Option.map_eq_some_iff.mp hrest
        exact ⟨(p.1, t), us, ⟨rfl, ht⟩, ih.mp hus, rfl⟩
      · rintro ⟨q, us, ⟨hkey, ht⟩, hus, rfl⟩
        exact ⟨q.2, ht, Option.map_eq_some_iff.mpr ⟨us, ih.mpr hus, by rw [hkey]⟩⟩

/-- The hooks take what `dumps` writes as it is. -/
structure Hooks.Faithful (hooks : Hooks) : Prop where
  pairs : ∀ fields : List (String × Json), (fields.map Prod.fst).Nodup →
    hooks.pairs fields = some fields
  float : ∀ x : Float, x.isFinite = true → hooks.float x = some (.float x)

theorem map_fst_sortedFields (fields : List (String × Json)) :
    (sortedFields fields).map Prod.fst = fields.map Prod.fst := by
  rw [sortedFields_eq_map, List.map_map]
  rfl

theorem forall₂_sortedItems {R : Json → List Char → Prop} {ascii : Bool} {items : List Json}
    {ts : List (List Char)} (h : dumpsItems ascii items = some ts)
    (himp : ∀ v ∈ items, ∀ t, dumps ascii v = some t → R v.sorted t) :
    List.Forall₂ R (sortedItems items) ts := by
  rw [sortedItems_eq_map, List.forall₂_map_left_iff]
  exact ((List.forall₂_and_left items ts).mpr
    ⟨fun _ hmem => hmem, dumpsItems_eq_some.mp h⟩).imp fun v t hvt => himp v hvt.1 t hvt.2

theorem forall₂_sortedFields {R : Json → List Char → Prop} {ascii : Bool}
    {fields : List (String × Json)} {ts : List (String × List Char)}
    (h : dumpsFields ascii fields = some ts)
    (himp : ∀ p ∈ fields, ∀ t, dumps ascii p.2 = some t → R p.2.sorted t) :
    List.Forall₂ (fun p q => p.1 = q.1 ∧ R p.2 q.2) (sortFields (sortedFields fields))
      (sortFields ts) := by
  refine forall₂_sortFields (fun p q hpq => hpq.1) ?_
  rw [sortedFields_eq_map, List.forall₂_map_left_iff]
  exact ((List.forall₂_and_left fields ts).mpr
    ⟨fun _ hmem => hmem, dumpsFields_eq_some.mp h⟩).imp
      fun p q hpq => ⟨hpq.2.1, himp p hpq.1 q.2 hpq.2.2⟩

theorem reads_arr {vs : List Json} {ts : List (List Char)}
    (h : List.Forall₂ (fun v t => Reads hooks v t ∧ Token t) vs ts) :
    Reads hooks (arr vs) ('[' :: commas ts ++ [']']) := by
  intro rest fuel _ hfuel
  obtain ⟨n, rfl⟩ : ∃ n, fuel = n + 1 := ⟨fuel - 1, by omega⟩
  have htext : '[' :: commas ts ++ [']'] ++ rest = '[' :: (commas ts ++ ']' :: rest) := by
    rw [List.cons_append, List.cons_append, List.append_assoc]
    rfl
  rw [htext] at hfuel ⊢
  cases ts with
  | nil =>
      cases h
      rfl
  | cons t ts =>
      have htoken : Token (commas (t :: ts)) := by
        cases h with
        | cons hvt _ => exact token_commas hvt.2 ts
      have hread := readItems_commas h (List.cons_ne_nil _ _) rest n
        (by rw [List.length_cons] at hfuel; omega)
      rw [readValue, htoken.skipSpace]
      split
      case h_1 hbracket =>
        obtain ⟨c, u, heq, _, _, _, _, hc⟩ := htoken
        rw [heq, List.cons_append] at hbracket
        exact absurd (List.cons.inj hbracket).1 hc
      case h_2 =>
        rw [hread]
        rfl

theorem reads_obj (hhooks : hooks.Faithful) {fs : List (String × Json)}
    {ts : List (String × List Char)} (hkeys : (fs.map Prod.fst).Nodup)
    (h : List.Forall₂ (fun p q => p.1 = q.1 ∧ Reads hooks p.2 q.2 ∧ Token q.2) fs ts) :
    Reads hooks (obj fs) ('\x7b' :: commas (ts.map (fieldText false)) ++ ['\x7d']) := by
  intro rest fuel _ hfuel
  obtain ⟨n, rfl⟩ : ∃ n, fuel = n + 1 := ⟨fuel - 1, by omega⟩
  have htext : '\x7b' :: commas (ts.map (fieldText false)) ++ ['\x7d'] ++ rest =
      '\x7b' :: (commas (ts.map (fieldText false)) ++ '\x7d' :: rest) := by
    rw [List.cons_append, List.cons_append, List.append_assoc]
    rfl
  rw [htext] at hfuel ⊢
  cases ts with
  | nil =>
      cases h
      change (hooks.pairs []).map _ = _
      rw [hhooks.pairs [] List.nodup_nil]
      rfl
  | cons t ts =>
      have htoken : Token (commas ((t :: ts).map (fieldText false))) :=
        token_commas ⟨'"', _, rfl, by decide⟩ _
      have hread := readFields_commas h (List.cons_ne_nil _ _) rest n
        (by rw [List.length_cons] at hfuel; omega)
      obtain ⟨u, hu⟩ : ∃ u, commas ((t :: ts).map (fieldText false)) = '"' :: u := by
        cases ts with
        | nil => exact ⟨_, rfl⟩
        | cons _ _ => exact ⟨_, rfl⟩
      rw [readValue, htoken.skipSpace]
      rw [hu, List.cons_append] at hread ⊢
      change (readFields hooks n _).bind _ = _
      rw [hread, Option.bind_some, hhooks.pairs fs hkeys]
      rfl

theorem reads_dumps (hhooks : hooks.Faithful) {v : Json} (hdistinct : Distinct v)
    {t : List Char} (h : dumps false v = some t) : Reads hooks v.sorted t ∧ Token t := by
  -- a text of letters
  have hword {v : Json} {t : List Char} (hread : ∀ rest n, readValue hooks (n + 1) (t ++ rest) =
      some (v, rest)) (htoken : Token t) : Reads hooks v t ∧ Token t := by
    refine ⟨fun rest fuel _ hfuel => ?_, htoken⟩
    obtain ⟨n, rfl⟩ : ∃ n, fuel = n + 1 := ⟨fuel - 1, by omega⟩
    exact hread rest n
  -- a text of a number
  have hnumber {v : Json} {t : List Char} (ht : NumberText t) (hread : readNumber hooks t = some v) :
      Reads hooks v t ∧ Token t := by
    refine ⟨fun rest fuel hends hfuel => ?_, token_of_number ht⟩
    obtain ⟨n, rfl⟩ : ∃ n, fuel = n + 1 := ⟨fuel - 1, by omega⟩
    rw [readValue_number ht hends, hread]
    rfl
  induction v using Json.induction generalizing t with
  | null =>
      rw [dumps] at h
      cases h
      exact hword (fun _ _ => rfl) ⟨_, _, rfl, by decide⟩
  | bool b =>
      cases b <;>
      · rw [dumps] at h
        cases h
        exact hword (fun _ _ => rfl) ⟨_, _, rfl, by decide⟩
  | int n =>
      rw [dumps] at h
      cases h
      exact hnumber (number_repr n) (readNumber_repr n)
  | float x =>
      rw [dumps] at h
      split at h
      case isTrue hfinite =>
        cases h
        obtain ⟨hback, hsigned⟩ := reprFloat_spec hfinite
        refine hnumber (number_of_signed hsigned) ?_
        rw [readNumber_signed hsigned, hback]
        exact hhooks.float x hfinite
      case isFalse => cases h
  | str s =>
      rw [dumps] at h
      cases h
      refine hword (fun rest n => ?_) ⟨_, _, rfl, by decide⟩
      obtain ⟨r, hr, hread⟩ := readString_stringText s rest
      rw [hr, readValue, hread, Option.map_some, String.ofList_toList]
      rfl
  | arr items ih =>
      rw [dumps] at h
      obtain ⟨ts, hts, rfl⟩ := Option.map_eq_some_iff.mp h
      cases hdistinct with
      | arr hitems =>
          have hall := forall₂_sortedItems (R := fun v t => Reads hooks v t ∧ Token t) hts
            fun v hmem t => ih v hmem (hitems v hmem)
          exact ⟨reads_arr hall, _, _, rfl, by decide⟩
  | obj fields ih =>
      rw [dumps] at h
      obtain ⟨ts, hts, rfl⟩ := Option.map_eq_some_iff.mp h
      cases hdistinct with
      | obj hnodup hfields =>
          have hall := forall₂_sortedFields (R := fun v t => Reads hooks v t ∧ Token t) hts
            fun p hmem t => ih p hmem (hfields p hmem)
          have hkeys : ((sortFields (sortedFields fields)).map Prod.fst).Nodup :=
            nodup_sortFields (by rw [map_fst_sortedFields]; exact hnodup)
          exact ⟨reads_obj hhooks hkeys hall, _, _, rfl, by decide⟩

theorem loads_dumps (hhooks : hooks.Faithful) {v : Json} (hdistinct : Distinct v)
    {t : List Char} (h : dumps false v = some t) : loads hooks t = some v.sorted := by
  obtain ⟨hreads, htoken⟩ := reads_dumps hhooks hdistinct h
  have hspace := htoken.skipSpace []
  have hread := hreads [] (2 * t.length + 1) (fun _ hc => by cases hc) (by
    rw [List.append_nil]
    omega)
  rw [List.append_nil] at hspace hread
  rw [loads, hspace, hread]
  rfl

theorem dumps_sorted {ascii : Bool} {v : Json} {t : List Char} (h : dumps ascii v = some t) :
    dumps ascii v.sorted = some t := by
  induction v using Json.induction generalizing t with
  | null => exact h
  | bool b => exact h
  | int n => exact h
  | float x => exact h
  | str s => exact h
  | arr items ih =>
      rw [dumps] at h
      obtain ⟨ts, hts, rfl⟩ := Option.map_eq_some_iff.mp h
      have hall := forall₂_sortedItems (R := fun v t => dumps ascii v = some t) hts
        fun v hmem t => ih v hmem
      rw [sorted, dumps, dumpsItems_eq_some.mpr hall]
      rfl
  | obj fields ih =>
      rw [dumps] at h
      obtain ⟨ts, hts, rfl⟩ := Option.map_eq_some_iff.mp h
      have hall := forall₂_sortedFields (R := fun v t => dumps ascii v = some t) hts
        fun p hmem t => ih p hmem
      rw [sorted, dumps, dumpsFields_eq_some.mpr hall, Option.map_some, sortFields_idem]

theorem same_of_dumps {v w : Json} (hv : Distinct v) (hw : Distinct w) {t : List Char}
    (h : dumps false v = some t) (h' : dumps false w = some t) : Same v w := by
  have hplain : (⟨some, fun _ => none, fun x => some (.float x)⟩ : Hooks).Faithful :=
    ⟨fun _ _ => rfl, fun _ _ => rfl⟩
  exact Option.some.inj ((loads_dumps hplain hv h).symm.trans (loads_dumps hplain hw h'))

/-! ## Fields by their keys -/

theorem lookup_sortedFields (k : String) (fields : List (String × Json)) :
    (sortedFields fields).lookup k = (fields.lookup k).map sorted := by
  induction fields with
  | nil => rfl
  | cons p rest ih =>
      rw [sortedFields, Dict.lookup_cons_ite, Dict.lookup_cons_ite, ih]
      split
      · rfl
      · rfl

theorem lookup_sortFields {fields : List (String × Json)} (h : (fields.map Prod.fst).Nodup)
    (k : String) : (sortFields fields).lookup k = fields.lookup k := by
  ext v
  rw [Dict.lookup_eq_some_iff (nodup_sortFields h), Dict.lookup_eq_some_iff h,
    (perm_sortFields fields).mem_iff]

theorem same_obj {fs gs : List (String × Json)} (hfs : (fs.map Prod.fst).Nodup)
    (hgs : (gs.map Prod.fst).Nodup)
    (h : ∀ k, (fs.lookup k).map sorted = (gs.lookup k).map sorted) : Same (obj fs) (obj gs) := by
  have hkeys {l : List (String × Json)} (hl : (l.map Prod.fst).Nodup) :
      ((sortedFields l).map Prod.fst).Nodup := by
    rw [map_fst_sortedFields]
    exact hl
  have hperm : (sortedFields fs).Perm (sortedFields gs) := by
    rw [List.perm_ext_iff_of_nodup (hkeys hfs).of_map (hkeys hgs).of_map]
    rintro ⟨k, v⟩
    rw [← Dict.lookup_eq_some_iff (hkeys hfs), ← Dict.lookup_eq_some_iff (hkeys hgs),
      lookup_sortedFields, lookup_sortedFields, h]
  have hstrict {l : List (String × Json)} (hl : (l.map Prod.fst).Nodup) :
      (sortFields (sortedFields l)).Pairwise fun p q => p.1 < q.1 := by
    have hnodup := List.pairwise_map.mp (nodup_sortFields (hkeys hl))
    exact ((pairwise_sortFields _).and hnodup).imp fun hpq => lt_of_le_of_ne hpq.1 hpq.2
  have hsorted : sortFields (sortedFields fs) = sortFields (sortedFields gs) :=
    (((perm_sortFields _).trans hperm).trans (perm_sortFields _).symm).eq_of_pairwise
      (fun _ _ _ _ hpq hqp => absurd hqp (lt_asymm hpq)) (hstrict hfs) (hstrict hgs)
  rw [Same, sorted, sorted, hsorted]

/-! ## What a reader takes -/

/-- The hooks make no object with two fields for a key. -/
structure Hooks.Strict (hooks : Hooks) : Prop where
  pairs : ∀ l fields, hooks.pairs l = some fields →
    (fields.map Prod.fst).Nodup ∧ ∀ p ∈ fields, p ∈ l
  constant : ∀ x v, hooks.constant x = some v → Distinct v
  float : ∀ x v, hooks.float x = some v → Distinct v

theorem distinct_readNumber (hhooks : hooks.Strict) {t : List Char} {v : Json}
    (h : readNumber hooks t = some v) : Distinct v := by
  rw [readNumber] at h
  split at h
  case isTrue => cases h
  case isFalse =>
    split at h
    case isTrue =>
      obtain ⟨x, _, h⟩ := Option.bind_eq_some_iff.mp h
      exact hhooks.float x v h
    case isFalse =>
      obtain ⟨n, _, rfl⟩ := Option.map_eq_some_iff.mp h
      exact .int n

theorem distinct_readScalar (hhooks : hooks.Strict) {s r : List Char} {v : Json}
    (h : readScalar hooks s = some (v, r)) : Distinct v := by
  rw [readScalar] at h
  split at h
  case h_1 w hw =>
    obtain ⟨u, hu, heq⟩ := Option.map_eq_some_iff.mp h
    cases heq
    have hmem := List.mem_of_find?_eq_some hw
    simp only [words, List.mem_cons, List.not_mem_nil, or_false] at hmem
    rcases hmem with rfl | rfl | rfl | rfl | rfl | rfl
    · cases hu
      exact .null
    · cases hu
      exact .bool _
    · cases hu
      exact .bool _
    all_goals exact hhooks.constant _ v hu
  case h_2 =>
    obtain ⟨u, hu, heq⟩ := Option.map_eq_some_iff.mp h
    cases heq
    exact distinct_readNumber hhooks hu

theorem distinct_read (hhooks : hooks.Strict) (fuel : ℕ) :
    (∀ s v r, readValue hooks fuel s = some (v, r) → Distinct v) ∧
      (∀ s vs r, readItems hooks fuel s = some (vs, r) → ∀ v ∈ vs, Distinct v) ∧
      ∀ s fs r, readFields hooks fuel s = some (fs, r) → ∀ p ∈ fs, Distinct p.2 := by
  induction fuel with
  | zero =>
      refine ⟨fun _ _ _ h => ?_, fun _ _ _ h => ?_, fun _ _ _ h => ?_⟩
      all_goals cases h
  | succ fuel ih =>
      obtain ⟨ihValue, ihItems, ihFields⟩ := ih
      have hword {v w : Json} {r t : List Char} (hw : Distinct w)
          (h : some (w, t) = some (v, r)) : Distinct v := by
        cases h
        exact hw
      refine ⟨fun s v r h => ?_, fun s vs r h => ?_, fun s fs r h => ?_⟩
      · unfold readValue at h
        split at h
        case h_1 =>
          obtain ⟨p, _, heq⟩ := Option.map_eq_some_iff.mp h
          cases heq
          exact .str _
        case h_2 =>
          split at h
          case h_1 => exact hword (.arr fun _ hmem => absurd hmem List.not_mem_nil) h
          case h_2 =>
            obtain ⟨p, hp, heq⟩ := Option.map_eq_some_iff.mp h
            cases heq
            exact .arr (ihItems _ _ _ hp)
        case h_3 =>
          have hobj {l fields : List (String × Json)} (hfields : hooks.pairs l = some fields)
              (hl : ∀ p ∈ l, Distinct p.2) : Distinct (obj fields) := by
            obtain ⟨hnodup, hmem⟩ := hhooks.pairs l fields hfields
            exact .obj hnodup fun p hp => hl p (hmem p hp)
          split at h
          case h_1 =>
            obtain ⟨fields, hfields, heq⟩ := Option.map_eq_some_iff.mp h
            cases heq
            exact hobj hfields fun _ hmem => absurd hmem List.not_mem_nil
          case h_2 =>
            obtain ⟨p, hp, h⟩ := Option.bind_eq_some_iff.mp h
            obtain ⟨fields, hfields, heq⟩ := Option.map_eq_some_iff.mp h
            cases heq
            exact hobj hfields (ihFields _ _ _ hp)
        case h_4 => exact distinct_readScalar hhooks h
      · unfold readItems at h
        obtain ⟨p, hp, h⟩ := Option.bind_eq_some_iff.mp h
        have hfirst := ihValue _ _ _ hp
        split at h
        case h_1 =>
          obtain ⟨q, hq, heq⟩ := Option.map_eq_some_iff.mp h
          cases heq
          exact List.forall_mem_cons.mpr ⟨hfirst, ihItems _ _ _ hq⟩
        case h_2 =>
          cases h
          exact List.forall_mem_singleton.mpr hfirst
        case h_3 => cases h
      · unfold readFields at h
        split at h
        case h_2 => cases h
        case h_1 =>
          obtain ⟨key, _, h⟩ := Option.bind_eq_some_iff.mp h
          split at h
          case h_2 => cases h
          case h_1 =>
            obtain ⟨p, hp, h⟩ := Option.bind_eq_some_iff.mp h
            have hfirst := ihValue _ _ _ hp
            split at h
            case h_1 =>
              obtain ⟨q, hq, heq⟩ := Option.map_eq_some_iff.mp h
              cases heq
              exact List.forall_mem_cons.mpr ⟨hfirst, ihFields _ _ _ hq⟩
            case h_2 =>
              cases h
              exact List.forall_mem_singleton.mpr hfirst
            case h_3 => cases h

theorem distinct_loads (hhooks : hooks.Strict) {t : List Char} {v : Json}
    (h : loads hooks t = some v) : Distinct v := by
  obtain ⟨p, hp, h⟩ := Option.bind_eq_some_iff.mp h
  split at h
  case isTrue =>
    cases h
    exact (distinct_read hhooks _).1 _ _ _ hp
  case isFalse => cases h

end Json
end CryoDaq
