import Mathlib.Data.List.DropRight
import Mathlib.Data.String.Basic

/-!
# Texts without surrounding white space

`strip` is `str.strip`.  A text is *blank* when nothing is left of it and
*trimmed* when it is its own strip.
-/

namespace CryoDaq
namespace Text

/-- The characters that `str.strip` removes. -/
def isSpace (c : Char) : Bool :=
  let n := c.toNat
  (9 ≤ n && n ≤ 13) || (28 ≤ n && n ≤ 32) || n == 0x85 || n == 0xa0 ||
    n == 0x1680 || (0x2000 ≤ n && n ≤ 0x200a) || n == 0x2028 || n == 0x2029 ||
    n == 0x202f || n == 0x205f || n == 0x3000

/-- `str.strip` on the characters of a text. -/
def stripChars (s : List Char) : List Char := (s.dropWhile isSpace).rdropWhile isSpace

def strip (s : String) : String := String.ofList (stripChars s.toList)

/-- Nothing but white space. -/
def blank (s : String) : Bool := strip s = ""

theorem dropWhile_rdropWhile (s : List Char) :
    ((s.dropWhile isSpace).rdropWhile isSpace).dropWhile isSpace =
      (s.dropWhile isSpace).rdropWhile isSpace := by
  cases h : (s.dropWhile isSpace).rdropWhile isSpace with
  | nil => rfl
  | cons c rest =>
      have hprefix : c :: rest <+: s.dropWhile isSpace := by
        rw [← h]
        exact List.rdropWhile_prefix isSpace _
      obtain ⟨tail, htail⟩ := hprefix
      have hne : s.dropWhile isSpace ≠ [] := by
        rw [← htail]
        exact List.cons_ne_nil _ _
      have hhead : isSpace ((s.dropWhile isSpace).head hne) = false :=
        List.head_dropWhile_not isSpace hne
      have hc : isSpace c = false := by
        rw [← hhead]
        congr 1
        simp [← htail]
      rw [List.dropWhile_cons, hc]
      rfl

theorem stripChars_stripChars (s : List Char) :
    stripChars (stripChars s) = stripChars s := by
  unfold stripChars
  rw [dropWhile_rdropWhile, List.rdropWhile_idempotent]

@[simp] theorem strip_strip (s : String) : strip (strip s) = strip s := by
  unfold strip
  rw [String.toList_ofList, stripChars_stripChars]

theorem strip_eq_self {s : String} (h : s.toList.all (fun c => !isSpace c) = true) :
    strip s = s := by
  have hnot : ∀ c ∈ s.toList, isSpace c = false := by
    intro c hc
    have hall := List.all_eq_true.mp h c hc
    simpa using hall
  have hdrop : s.toList.dropWhile isSpace = s.toList := by
    cases hs : s.toList with
    | nil => rfl
    | cons c rest =>
        rw [List.dropWhile_cons, hnot c (by rw [hs]; exact List.mem_cons_self)]
        rfl
  have hrdrop : s.toList.rdropWhile isSpace = s.toList := by
    rw [List.rdropWhile_eq_self_iff]
    intro hne
    rw [hnot _ (List.getLast_mem hne)]
    exact Bool.false_ne_true
  unfold strip stripChars
  rw [hdrop, hrdrop, String.ofList_toList]

example : strip "  cold head \n" = "cold head" := by decide

end Text
end CryoDaq
