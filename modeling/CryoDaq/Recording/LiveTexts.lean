import CryoDaq.Channels.Legacy
import CryoDaq.Recording.LiveAuthorities

/-!
# Texts on their way to a receipt

**Admitted.**  The rules of the owners and of the adapters are one rule, under the
limit that each of them passes: `Admitted`.  The receipts refuse line and
paragraph separators on top of it.

**Graphic.**  A short text of graphic ASCII characters is admitted everywhere; the
reasons and the session identities that an owner spells are of this kind.
-/

namespace CryoDaq
namespace Recording

open Channels ObjectGraph Storage Text

variable {p : Platform} {limit : ℕ}

/-- What the rules of the owners and the adapters admit. -/
structure Admitted (p : Platform) (limit : ℕ) (value : String) : Prop where
  nonempty : value ≠ ""
  exact : value = strip value
  normal : codePoints value = p.normalize (codePoints value)
  encoded : ∃ n, utf8Length (codePoints value) = some n ∧ n ≤ limit
  printable : (codePoints value).any p.isControl = false

def Separated (p : Platform) (value : String) : Prop :=
  (codePoints value).any (isSeparator p) = false

theorem textFault_eq_none {value : String} :
    textFault p limit value = none ↔ Admitted p limit value := by
  unfold textFault
  constructor
  · intro h
    split at h
    · cases h
    · rename_i hexact
      rw [not_or, not_not] at hexact
      split at h
      · cases h
      · rename_i n hn
        split at h
        · cases h
        · rename_i hnormal
          rw [not_or, not_not, not_lt] at hnormal
          split at h
          · cases h
          · rename_i hcontrol
            exact ⟨hexact.1, hexact.2, hnormal.1, ⟨n, hn, hnormal.2⟩,
              Bool.not_eq_true _ ▸ hcontrol⟩
  · intro h
    obtain ⟨n, hn, hbound⟩ := h.encoded
    rw [if_neg (not_or.mpr ⟨h.nonempty, not_not_intro h.exact⟩), hn]
    dsimp only
    rw [if_neg (not_or.mpr ⟨not_not_intro h.normal, not_lt.mpr hbound⟩),
      if_neg (by rw [h.printable]; exact Bool.false_ne_true)]

theorem exactText_eq_ok {value result : String} :
    exactText p limit value = .ok result ↔ Admitted p limit value ∧ value = result := by
  unfold exactText
  constructor
  · intro h
    split at h
    · cases h
    · rename_i hexact
      rw [not_or, not_not] at hexact
      split at h
      · cases h
      · rename_i n hn
        split at h
        · cases h
        · rename_i hnormal
          rw [not_or, not_not, not_lt] at hnormal
          split at h
          · cases h
          · rename_i hcontrol
            exact ⟨⟨hexact.1, hexact.2, hnormal.2, ⟨n, hn, hnormal.1⟩,
              Bool.not_eq_true _ ▸ hcontrol⟩, Except.ok.inj h⟩
  · rintro ⟨h, rfl⟩
    obtain ⟨n, hn, hbound⟩ := h.encoded
    rw [if_neg (not_or.mpr ⟨h.nonempty, not_not_intro h.exact⟩), hn]
    dsimp only
    rw [if_neg (not_or.mpr ⟨not_lt.mpr hbound, not_not_intro h.normal⟩),
      if_neg (by rw [h.printable]; exact Bool.false_ne_true)]

theorem any_or_eq_false {α : Type} {f g : α → Bool} {s : List α} :
    s.any (fun c => f c || g c) = false ↔ s.any f = false ∧ s.any g = false := by
  simp only [List.any_eq_false, Bool.or_eq_true, not_or]
  exact ⟨fun h => ⟨fun c hc => (h c hc).1, fun c hc => (h c hc).2⟩,
    fun h c hc => ⟨h.1 c hc, h.2 c hc⟩⟩

theorem boundedText_eq_ok {field value result : String} :
    boundedText p field limit value = .ok result ↔
      (Admitted p limit value ∧ Separated p value) ∧ value = result := by
  unfold boundedText
  constructor
  · intro h
    split at h
    · cases h
    · rename_i hexact
      rw [not_or, not_not] at hexact
      split at h
      · cases h
      · rename_i n hn
        split at h
        · cases h
        · rename_i hnormal
          split at h
          · cases h
          · rename_i hbounded
            rw [not_or, not_lt, Bool.not_eq_true, any_or_eq_false] at hbounded
            exact ⟨⟨⟨hexact.1, hexact.2, not_not.mp hnormal, ⟨n, hn, hbounded.1⟩,
              hbounded.2.1⟩, hbounded.2.2⟩, Except.ok.inj h⟩
  · rintro ⟨⟨h, hseparated⟩, rfl⟩
    obtain ⟨n, hn, hbound⟩ := h.encoded
    rw [if_neg (not_or.mpr ⟨h.nonempty, not_not_intro h.exact⟩), hn]
    dsimp only
    rw [if_neg (not_not_intro h.normal), if_neg]
    rw [not_or, not_lt, Bool.not_eq_true, any_or_eq_false]
    exact ⟨hbound, h.printable, hseparated⟩

theorem optionalText_eq_ok {check : String → Except Refusal String} {value : Option String}
    {u : Unit} :
    optionalText check value = .ok u ↔ ∀ s, value = some s → ∃ r, check s = .ok r := by
  cases value with
  | none => simp [optionalText]
  | some s =>
      simp only [optionalText, bind_eq_ok, Option.some.injEq, forall_eq']
      constructor
      · rintro ⟨r, hr, _⟩
        exact ⟨r, hr⟩
      · rintro ⟨r, hr⟩
        exact ⟨r, hr, rfl⟩

theorem requiredText_eq_ok {check : String → Except Refusal String} {value : Option String}
    {result : String} :
    requiredText check value = .ok result ↔ ∃ s, value = some s ∧ check s = .ok result := by
  cases value with
  | none => simp [requiredText]
  | some s => simp [requiredText]

theorem strip_graphic {value : String} (h : (codePoints value).all isGraphic = true) :
    strip value = value := by
  have hspace : ∀ c ∈ value.toList, isSpace c = false := by
    intro c hc
    have hgraphic := List.all_eq_true.mp h (codePoint c) (List.mem_map.mpr ⟨c, hc, rfl⟩)
    have hpoint := isSpacePoint_of_isGraphic hgraphic
    unfold isSpacePoint at hpoint
    rwa [show Char.ofNat (codePoint c).val = c from Char.ofNat_toNat c] at hpoint
  have hdrop : value.toList.dropWhile isSpace = value.toList := by
    rw [List.dropWhile_eq_self_iff]
    intro hpos
    rw [hspace _ (List.getElem_mem hpos)]
    exact Bool.false_ne_true
  have hrdrop : value.toList.rdropWhile isSpace = value.toList := by
    rw [List.rdropWhile_eq_self_iff]
    intro hne
    rw [hspace _ (List.getLast_mem hne)]
    exact Bool.false_ne_true
  unfold strip stripChars
  rw [hdrop, hrdrop, String.ofList_toList]

theorem admitted_printable {value : String} (h : (codePoints value).all isPrintable = true)
    (hne : value ≠ "") (hexact : strip value = value) (hlength : value.length ≤ limit) :
    Admitted p limit value ∧ Separated p value := by
  refine ⟨⟨hne, hexact.symm, (p.normalize_printable _ h).symm, ⟨_, utf8Length_printable h, ?_⟩,
    ?_⟩, ?_⟩
  · rwa [codePoints, List.length_map, String.length_toList]
  · rw [List.any_eq_false]
    intro c hc
    rw [(p.category_printable c (List.all_eq_true.mp h c hc)).1]
    exact Bool.false_ne_true
  · unfold Separated
    rw [List.any_eq_false]
    intro c hc
    have hcategory := (p.category_printable c (List.all_eq_true.mp h c hc)).2
    simp only [isSeparator, Bool.or_eq_true, decide_eq_true_eq, not_or]
    exact hcategory

theorem admitted_graphic {value : String} (h : (codePoints value).all isGraphic = true)
    (hne : value ≠ "") (hlength : value.length ≤ limit) :
    Admitted p limit value ∧ Separated p value :=
  admitted_printable
    (List.all_eq_true.mpr fun c hc => isPrintable_of_isGraphic (List.all_eq_true.mp h c hc))
    hne (strip_graphic h) hlength

/-- A phrase that the owners spell as a reason. -/
def isPhrase (value : String) : Bool :=
  (codePoints value).all isPrintable && value ≠ "" && strip value = value &&
    value.length ≤ maxReasonUtf8Bytes

theorem admitted_phrase {value : String} (h : isPhrase value = true) :
    Admitted p maxReasonUtf8Bytes value ∧ Separated p value := by
  simp only [isPhrase, Bool.and_eq_true, decide_eq_true_eq] at h
  exact admitted_printable h.1.1.1 h.1.1.2 h.1.2 h.2

theorem graphic_of_isHex {c : Char} (h : isHex c = true) : isGraphic (codePoint c) = true := by
  simp only [isHex, Bool.or_eq_true, Bool.and_eq_true, decide_eq_true_eq, Char.le_def,
    UInt32.le_iff_toNat_le] at h
  have hval : (codePoint c).val = c.val.toNat := rfl
  simp only [isGraphic, hval, Bool.and_eq_true, decide_eq_true_eq]
  rcases h with h | h
  · have h0 : '0'.val.toNat = 48 := rfl
    have h9 : '9'.val.toNat = 57 := rfl
    omega
  · have ha : 'a'.val.toNat = 97 := rfl
    have hf : 'f'.val.toNat = 102 := rfl
    omega

theorem digitChar_spec {d : ℕ} (hd : d < 16) :
    isHex (Nat.digitChar d) = true ∧ hexValue (Nat.digitChar d) = d ∧
      (d ≠ 0 → Nat.digitChar d ≠ '0') := by
  have hall : ∀ d : Fin 16, isHex (Nat.digitChar d) = true ∧ hexValue (Nat.digitChar d) = d ∧
      (d.val ≠ 0 → Nat.digitChar d ≠ '0') := by
    decide
  exact hall ⟨d, hd⟩

theorem isCounter_concat {digits : List Char} {c : Char} (h : isCounter digits = true)
    (hc : isHex c = true) : isCounter (digits ++ [c]) = true := by
  cases digits with
  | nil => cases h
  | cons first rest =>
      simp only [isCounter, Bool.and_eq_true] at h
      simp only [List.cons_append, isCounter, List.all_append, List.all_cons, List.all_nil,
        Bool.and_true, Bool.and_eq_true]
      exact ⟨h.1, h.2, hc⟩

theorem digits_spec (n : ℕ) (hn : 0 < n) :
    isCounter (Nat.toDigits 16 n) = true ∧ ofHex (Nat.toDigits 16 n) = n := by
  induction n using Nat.strong_induction_on with
  | _ n ih =>
      rw [Nat.toDigits_eq_if (by decide)]
      by_cases hsmall : n < 16
      · rw [if_pos hsmall]
        obtain ⟨hhex, hvalue, hzero⟩ := digitChar_spec hsmall
        constructor
        · simp [isCounter, hhex, hzero hn.ne']
        · simp [ofHex, hvalue]
      · rw [if_neg hsmall]
        obtain ⟨hcounter, hvalue⟩ := ih (n / 16) (by omega) (by omega)
        obtain ⟨hhex, hdigit, -⟩ := digitChar_spec (Nat.mod_lt n (by decide : 16 > 0))
        refine ⟨isCounter_concat hcounter hhex, ?_⟩
        unfold ofHex at hvalue ⊢
        rw [List.foldl_append, hvalue, List.foldl_cons, List.foldl_nil, hdigit]
        omega

theorem graphic_of_isCounter {digits : List Char} (h : isCounter digits = true) :
    ∀ c ∈ digits, isHex c = true := by
  cases digits with
  | nil => cases h
  | cons first rest =>
      simp only [isCounter, Bool.and_eq_true] at h
      intro c hc
      rcases List.mem_cons.mp hc with rfl | hc
      · exact h.1.1
      · exact List.all_eq_true.mp h.2 c hc

theorem codePoints_append (s t : String) : codePoints (s ++ t) = codePoints s ++ codePoints t := by
  rw [codePoints, String.toList_append, List.map_append]
  rfl

theorem codePoints_hex {value : String} (h : ∀ c ∈ value.toList, isHex c = true) :
    (codePoints value).all isGraphic = true := by
  rw [List.all_eq_true]
  intro c hc
  obtain ⟨x, hx, rfl⟩ := List.mem_map.mp hc
  exact graphic_of_isHex (h x hx)

/-- The identity of a session of a generation, as far as its counter is in range. -/
structure Named (s : SessionId) : Prop where
  generation : isGeneration s.generationId = true
  positive : 1 ≤ s.counter
  bounded : s.counter ≤ maxNonnegativeInt

theorem Named.admitted {s : SessionId} (h : Named s) :
    Admitted p maxIdUtf8Bytes s.text ∧ Separated p s.text := by
  have hgeneration := h.generation
  simp only [isGeneration, Bool.and_eq_true, decide_eq_true_eq] at hgeneration
  obtain ⟨hcounter, -⟩ := digits_spec s.counter h.positive
  have hdigits : (Nat.toDigits 16 s.counter).length ≤ 16 := by
    rw [Nat.length_toDigits_le_iff (by decide) (by decide)]
    exact lt_of_le_of_lt h.bounded (by decide)
  refine admitted_graphic ?_ ?_ ?_
  · unfold SessionId.text
    simp only [codePoints_append, List.all_append, Bool.and_eq_true]
    refine ⟨⟨⟨by decide, codePoints_hex (List.all_eq_true.mp hgeneration.2)⟩, by decide⟩,
      codePoints_hex ?_⟩
    rw [String.toList_ofList]
    exact graphic_of_isCounter hcounter
  · intro hempty
    have hlength : s.text.length = 0 := by
      rw [hempty]
      rfl
    unfold SessionId.text at hlength
    simp only [String.length_append] at hlength
    omega
  · unfold SessionId.text
    simp only [String.length_append, String.length_ofList, hgeneration.1]
    have hprefix : "recording-v1:".length = 13 := by decide
    have hcolon : ":".length = 1 := by decide
    have hlimit : maxIdUtf8Bytes = 128 := rfl
    omega

theorem Named.checkSession {s : SessionId} (h : Named s) :
    Recording.checkSession s.generationId s.text = .ok () := by
  obtain ⟨hcounter, hvalue⟩ := digits_spec s.counter h.positive
  have htext : s.text.toList = ("recording-v1:" ++ s.generationId ++ ":").toList ++
      Nat.toDigits 16 s.counter := by
    rw [SessionId.text, String.toList_append, String.toList_ofList]
  unfold Recording.checkSession
  simp only [bind_eq_ok, ensure_eq_ok, exists_unit]
  rw [htext, List.drop_left, hvalue]
  exact ⟨List.prefix_append _ _, hcounter, h.bounded⟩

end Recording
end CryoDaq
