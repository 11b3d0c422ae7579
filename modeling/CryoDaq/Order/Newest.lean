import Mathlib.Data.Finset.Max
import Mathlib.Algebra.Order.BigOperators.Group.Finset

/-!
# The newest elements of a finite set

The greatest elements of a finite set, and the greatest elements of a set that is split into
channels: no more than `p` of each channel, and no more than `t` of these.

**Between.**  The selection depends on nothing but itself: every set between the selection and the
whole has the same selection.  A stream can therefore be selected from as it goes.
-/

namespace CryoDaq
namespace Newest

variable {κ χ : Type} [LinearOrder κ] [DecidableEq χ]

/-! ## The greatest elements -/

/-- The `n` greatest elements. -/
def topOf (n : ℕ) (s : Finset κ) : Finset κ := s.filter fun x => (s.filter (x < ·)).card < n

theorem topOf_subset (n : ℕ) (s : Finset κ) : topOf n s ⊆ s := Finset.filter_subset _ _

theorem mem_topOf {n : ℕ} {s : Finset κ} {x : κ} :
    x ∈ topOf n s ↔ x ∈ s ∧ (s.filter (x < ·)).card < n := Finset.mem_filter

theorem topOf_eq_self {n : ℕ} {s : Finset κ} (h : s.card ≤ n) : topOf n s = s := by
  refine Finset.filter_true_of_mem fun x hx => ?_
  have hproper : s.filter (x < ·) ⊂ s :=
    Finset.filter_ssubset.mpr ⟨x, hx, lt_irrefl x⟩
  exact (Finset.card_lt_card hproper).trans_le h

theorem topOf_insert_least {n : ℕ} {s : Finset κ} {m : κ} (hleast : ∀ x ∈ s, m < x)
    (hfull : n ≤ s.card) : topOf n (insert m s) = topOf n s := by
  have habove : (insert m s).filter (m < ·) = s := by
    rw [Finset.filter_insert, if_neg (lt_irrefl m)]
    exact Finset.filter_true_of_mem hleast
  ext x
  rw [mem_topOf, mem_topOf, Finset.mem_insert]
  constructor
  · rintro ⟨rfl | hx, hcard⟩
    · rw [habove] at hcard
      exact absurd hfull (not_le.mpr hcard)
    · rw [Finset.filter_insert, if_neg (not_lt.mpr (hleast x hx).le)] at hcard
      exact ⟨hx, hcard⟩
  · rintro ⟨hx, hcard⟩
    refine ⟨.inr hx, ?_⟩
    rwa [Finset.filter_insert, if_neg (not_lt.mpr (hleast x hx).le)]

theorem topOf_erase_least {n : ℕ} {s : Finset κ} {m : κ} (hm : m ∈ s) (hleast : ∀ x ∈ s, m ≤ x)
    (hfull : n < s.card) : topOf n (s.erase m) = topOf n s := by
  have hbelow : ∀ x ∈ s.erase m, m < x := fun x hx =>
    lt_of_le_of_ne (hleast x (Finset.mem_of_mem_erase hx)) (Finset.ne_of_mem_erase hx).symm
  have hcard : n ≤ (s.erase m).card := by
    rw [Finset.card_erase_of_mem hm]
    exact Nat.le_sub_one_of_lt hfull
  rw [← topOf_insert_least hbelow hcard, Finset.insert_erase hm]

theorem card_topOf (n : ℕ) (s : Finset κ) : (topOf n s).card = min n s.card := by
  induction s using Finset.induction_on_min with
  | empty => rw [topOf_eq_self (by simp), Finset.card_empty, Nat.min_zero]
  | insert m s hleast ih =>
      have hm : m ∉ s := fun h => lt_irrefl m (hleast m h)
      rw [Finset.card_insert_of_notMem hm]
      rcases Nat.lt_or_ge s.card n with hsmall | hfull
      · rw [topOf_eq_self (by rw [Finset.card_insert_of_notMem hm]; exact hsmall),
          Finset.card_insert_of_notMem hm, min_eq_right hsmall]
      · rw [topOf_insert_least hleast hfull, ih]
        omega

theorem filter_topOf (n : ℕ) (s : Finset κ) (x : κ) :
    (topOf n s).filter (x < ·) = topOf n (s.filter (x < ·)) := by
  have habove {y : κ} (hxy : x < y) : (s.filter (x < ·)).filter (y < ·) = s.filter (y < ·) := by
    rw [Finset.filter_filter]
    refine Finset.filter_congr fun z _ => ⟨fun h => h.2, fun h => ⟨hxy.trans h, h⟩⟩
  ext y
  simp only [Finset.mem_filter, mem_topOf]
  constructor
  · rintro ⟨⟨hy, hcard⟩, hxy⟩
    exact ⟨⟨hy, hxy⟩, by rwa [habove hxy]⟩
  · rintro ⟨⟨hy, hxy⟩, hcard⟩
    exact ⟨⟨hy, by rwa [habove hxy] at hcard⟩, hxy⟩

variable (channel : κ → χ) (p t : ℕ)

def inChannel (s : Finset κ) (c : χ) : Finset κ := s.filter (channel · = c)

/-- The `p` greatest elements of each channel. -/
def channelTop (s : Finset κ) : Finset κ :=
  s.filter fun x => ((inChannel channel s (channel x)).filter (x < ·)).card < p

/-- The `t` greatest of these. -/
def newest (s : Finset κ) : Finset κ := topOf t (channelTop channel p s)

variable {channel p t} {r s : Finset κ}

omit [LinearOrder κ] in
theorem mem_inChannel {c : χ} {x : κ} :
    x ∈ inChannel channel s c ↔ x ∈ s ∧ channel x = c := Finset.mem_filter

theorem mem_channelTop {x : κ} :
    x ∈ channelTop channel p s ↔
      x ∈ s ∧ ((inChannel channel s (channel x)).filter (x < ·)).card < p := Finset.mem_filter

omit [LinearOrder κ] in
theorem inChannel_mono (h : r ⊆ s) (c : χ) : inChannel channel r c ⊆ inChannel channel s c :=
  Finset.filter_subset_filter _ h

theorem channelTop_subset : channelTop channel p s ⊆ s := Finset.filter_subset _ _

theorem newest_subset : newest channel p t s ⊆ s :=
  (topOf_subset _ _).trans channelTop_subset

theorem inChannel_channelTop (c : χ) :
    inChannel channel (channelTop channel p s) c = topOf p (inChannel channel s c) := by
  ext x
  rw [mem_inChannel, mem_channelTop, mem_topOf, mem_inChannel]
  constructor
  · rintro ⟨⟨hx, hcard⟩, rfl⟩
    exact ⟨⟨hx, rfl⟩, hcard⟩
  · rintro ⟨⟨hx, rfl⟩, hcard⟩
    exact ⟨⟨hx, hcard⟩, rfl⟩

theorem inChannel_filter_lt (c : χ) (x : κ) :
    inChannel channel (s.filter (x < ·)) c = (inChannel channel s c).filter (x < ·) :=
  Finset.filter_comm _ _ _

theorem card_channelTop_above (s : Finset κ) (channels : Finset χ)
    (hchannels : ∀ y ∈ s, channel y ∈ channels) (x : κ) :
    ((channelTop channel p s).filter (x < ·)).card =
      ∑ c ∈ channels, min p ((inChannel channel s c).filter (x < ·)).card := by
  rw [Finset.card_eq_sum_card_fiberwise (f := channel) (t := channels)
    fun y hy => hchannels y (channelTop_subset (Finset.mem_of_mem_filter y hy))]
  refine Finset.sum_congr rfl fun c _ => ?_
  change (inChannel channel ((channelTop channel p s).filter (x < ·)) c).card = _
  rw [inChannel_filter_lt, inChannel_channelTop, filter_topOf, card_topOf]

theorem card_channelTop (s : Finset κ) (channels : Finset χ)
    (hchannels : ∀ y ∈ s, channel y ∈ channels) :
    (channelTop channel p s).card = ∑ c ∈ channels, min p (inChannel channel s c).card := by
  rw [Finset.card_eq_sum_card_fiberwise (f := channel) (t := channels)
    fun y hy => hchannels y (channelTop_subset hy)]
  refine Finset.sum_congr rfl fun c _ => ?_
  change (inChannel channel (channelTop channel p s) c).card = _
  rw [inChannel_channelTop, card_topOf]

theorem card_channelTop_above_mono (h : r ⊆ s) (x : κ) :
    ((channelTop channel p r).filter (x < ·)).card ≤
      ((channelTop channel p s).filter (x < ·)).card := by
  rw [card_channelTop_above r (s.image channel)
      (fun y hy => Finset.mem_image_of_mem channel (h hy)),
    card_channelTop_above s _ (fun y hy => Finset.mem_image_of_mem channel hy)]
  refine Finset.sum_le_sum fun c _ => min_le_min_left p (Finset.card_le_card ?_)
  exact Finset.filter_subset_filter _ (inChannel_mono h c)

theorem card_channelTop_mono (h : r ⊆ s) :
    (channelTop channel p r).card ≤ (channelTop channel p s).card := by
  rw [card_channelTop r (s.image channel)
      (fun y hy => Finset.mem_image_of_mem channel (h hy)),
    card_channelTop s _ (fun y hy => Finset.mem_image_of_mem channel hy)]
  exact Finset.sum_le_sum fun c _ =>
    min_le_min_left p (Finset.card_le_card (inChannel_mono h c))

/-! ## Selecting from a part -/

theorem mem_newest_of_subset {x : κ} (h : r ⊆ s) (hx : x ∈ newest channel p t s) (hr : x ∈ r) :
    x ∈ newest channel p t r := by
  rw [newest, mem_topOf] at hx ⊢
  obtain ⟨htop, hcard⟩ := hx
  refine ⟨?_, (card_channelTop_above_mono h x).trans_lt hcard⟩
  rw [mem_channelTop] at htop ⊢
  refine ⟨hr, (Finset.card_le_card ?_).trans_lt htop.2⟩
  exact Finset.filter_subset_filter _ (inChannel_mono h _)

theorem newest_eq_of_between (hlower : newest channel p t s ⊆ r) (hupper : r ⊆ s) :
    newest channel p t r = newest channel p t s := by
  refine (Finset.eq_of_subset_of_card_le ?_ ?_).symm
  · exact fun x hx => mem_newest_of_subset hupper hx (hlower hx)
  · rw [newest, newest, card_topOf, card_topOf]
    exact min_le_min_left t (card_channelTop_mono hupper)

theorem newest_insert (x : κ) :
    newest channel p t (insert x (newest channel p t s)) = newest channel p t (insert x s) := by
  refine newest_eq_of_between (fun y hy => ?_) (Finset.insert_subset_insert x newest_subset)
  rcases Finset.mem_insert.mp (newest_subset hy) with rfl | hys
  · exact Finset.mem_insert_self _ _
  · exact Finset.mem_insert_of_mem (mem_newest_of_subset (Finset.subset_insert x s) hy hys)

theorem newest_union :
    newest channel p t (r ∪ newest channel p t s) = newest channel p t (r ∪ s) := by
  refine newest_eq_of_between (fun y hy => ?_) (Finset.union_subset_union_right newest_subset)
  rcases Finset.mem_union.mp (newest_subset hy) with hyr | hys
  · exact Finset.mem_union_left _ hyr
  · exact Finset.mem_union_right _ (mem_newest_of_subset Finset.subset_union_right hy hys)

theorem channelTop_eq_self (h : ∀ c, (inChannel channel s c).card ≤ p) :
    channelTop channel p s = s := by
  refine Finset.filter_true_of_mem fun x hx => ?_
  have hmem : x ∈ inChannel channel s (channel x) := Finset.mem_filter.mpr ⟨hx, rfl⟩
  rw [← topOf_eq_self (h (channel x)), mem_topOf] at hmem
  exact hmem.2

theorem eq_channelTop {c : χ}
    (hcut : inChannel channel r c = topOf p (inChannel channel s c))
    (hothers : ∀ x, channel x ≠ c → (x ∈ r ↔ x ∈ s))
    (hbound : ∀ d, d ≠ c → (inChannel channel s d).card ≤ p) : r = channelTop channel p s := by
  ext x
  by_cases hx : channel x = c
  · have hr : x ∈ r ↔ x ∈ inChannel channel r c := by rw [mem_inChannel, and_iff_left hx]
    have hs : x ∈ channelTop channel p s ↔ x ∈ inChannel channel (channelTop channel p s) c := by
      rw [mem_inChannel, and_iff_left hx]
    rw [hr, hs, hcut, inChannel_channelTop]
  · rw [hothers x hx]
    refine ⟨fun hmem => ?_, fun hmem => channelTop_subset hmem⟩
    have hin : x ∈ inChannel channel s (channel x) := mem_inChannel.mpr ⟨hmem, rfl⟩
    rw [← topOf_eq_self (hbound (channel x) hx), ← inChannel_channelTop, mem_inChannel] at hin
    exact hin.1

theorem newest_eq_self (h : ∀ c, (inChannel channel s c).card ≤ p) (ht : s.card ≤ t) :
    newest channel p t s = s := by
  rw [newest, channelTop_eq_self h, topOf_eq_self ht]

end Newest
end CryoDaq
