import CryoDaq.Storage.CollectorInvariant
import Mathlib.Algebra.BigOperators.Ring.Finset
import Mathlib.Data.String.Basic

/-!
# Runs of the bounded collector

Offers, merges and discards one after the other.  After every call the caps hold and the counters
agree with the rows; a collector that is not marked has the row of every offer that stands; and as
long as the byte cap does not bind the keys are the newest of those that were offered.

**Discards.**  A discard takes the row of its key and does not mark the collector.  The offers of
the key no longer stand.
-/

namespace CryoDaq
namespace Storage
namespace BoundedCollector

open Newest (inChannel newest newest_insert newest_union newest_eq_self eq_channelTop)

variable {ι χ δ : Type} [LinearOrder ι] [LinearOrder χ] {size : Offer ι χ δ → ℕ}
  {c c' : BoundedCollector ι χ δ} {o : Offer ι χ δ} {k : ReadingKey ι χ}
  {row : CollectedRow ι χ δ}

/-! ## The row of an offer -/

theorem get?_place : (c.place size o).byKey.get? k =
    if k = o.key then some { o with token := c.nextToken + 1, encodedSize := size o }
    else c.byKey.get? k := Dict.get?_set _ _ _ _

theorem retained_place (size : Offer ι χ δ → ℕ) : (c.place size o).retained = insert o.key c.retained := by
  ext k
  rw [Finset.mem_insert, mem_retained, mem_retained]
  simp only [get?_place]
  split
  case isTrue heq => exact ⟨fun _ => .inl heq, fun _ => ⟨_, rfl⟩⟩
  case isFalse hne => exact ⟨.inr, fun h => h.resolve_left hne⟩

theorem count_place (channel : χ) : (c.place size o).count channel =
    c.count channel - ((c.byKey.get? o.key).map fun _ =>
      if o.channel = channel then (1 : ℤ) else 0).getD 0 +
        if o.channel = channel then 1 else 0 := by
  have hcount : (c.place size o).count channel =
      ((if (c.byKey.get? o.key).isSome then c.channelCounts
        else c.channelCounts.set o.channel (c.count o.channel + 1)).get? channel).getD 0 := rfl
  rw [hcount]
  cases c.byKey.get? o.key with
  | some row =>
      change c.count channel = _
      rw [Option.map_some, Option.getD_some, sub_add_cancel]
  | none =>
      change ((c.channelCounts.set o.channel (c.count o.channel + 1)).get? channel).getD 0 = _
      rw [Dict.get?_set, Option.map_none, Option.getD_none, sub_zero]
      by_cases hchannel : channel = o.channel
      · rw [if_pos hchannel, if_pos hchannel.symm, hchannel]
        rfl
      · rw [if_neg hchannel, if_neg (Ne.symm hchannel), add_zero]
        rfl

theorem Counted.place (h : c.Counted) : (c.place size o).Counted where
  keyed k row hget := by
    rw [get?_place] at hget
    split at hget
    case isTrue heq =>
      cases hget
      exact heq.symm
    case isFalse => exact h.keyed k row hget
  counts channel := by
    rw [count_place, h.counts]
    change _ = (c.byKey.set o.key _).total _
    rw [Dict.total_set]
    rfl
  bytes := by
    change c.retainedEncodedBytes - ((c.byKey.get? o.key).map (·.encodedSize)).getD 0 + size o =
      (c.byKey.set o.key _).total _
    rw [Dict.total_set, h.bytes]
    cases c.byKey.get? o.key <;> rfl

theorem Covered.place (h : c.Covered) : (c.place size o).Covered where
  all k row hget := by
    rw [get?_place] at hget
    refine Heapq.mem_push.mpr ?_
    split at hget
    case isTrue heq =>
      cases hget
      exact .inl rfl
    case isFalse => exact .inr (h.all k row hget)
  channel k row hget := by
    rw [get?_place] at hget
    refine (mem_channelHeap_of_set rfl).mpr ?_
    split at hget
    case isTrue heq =>
      cases hget
      rw [if_pos (show k.channel = o.channel from congrArg ReadingKey.channel heq)]
      exact Heapq.mem_push.mpr (.inl rfl)
    case isFalse =>
      split
      case isTrue hchannel =>
        exact Heapq.mem_push.mpr (.inr (hchannel ▸ h.channel k row hget))
      case isFalse => exact h.channel k row hget
  rank e he := by
    rcases Heapq.mem_push.mp he with rfl | he
    · rfl
    · exact h.rank e he
  channelRank channel e he := by
    replace he := (mem_channelHeap_of_set rfl).mp he
    split at he
    case isTrue hchannel =>
      rcases Heapq.mem_push.mp he with rfl | he
      · exact ⟨rfl, hchannel.symm⟩
      · exact hchannel ▸ h.channelRank o.channel e he
    case isFalse => exact h.channelRank channel e he

theorem Sound.place (h : c.Sound) : (c.place size o).Sound :=
  ⟨h.toCounted.place, h.toCovered.place⟩

theorem outranked_iff : c.outranked o = true ↔
    ∃ prior, c.byKey.get? o.key = some prior ∧ o.authority ≤ prior.authority := by
  rw [outranked, Option.any_eq_true]
  simp only [decide_eq_true_iff]

/-- The byte cap neither refuses the row of an offer nor evicts another one for it. -/
def Fits (size : Offer ι χ δ → ℕ) (c : BoundedCollector ι χ δ) (o : Offer ι χ δ) : Prop :=
  (size o : ℤ) ≤ c.caps.bytes ∧
    (c.outranked o = false → ∀ c₁ c₂, (c.place size o).evictChannel o.channel = some c₁ →
      c₁.evictTotal = some c₂ → c₂.retainedEncodedBytes ≤ c.caps.bytes)

structure Offered (size : Offer ι χ δ → ℕ) (c : BoundedCollector ι χ δ) (o : Offer ι χ δ)
    (c' : BoundedCollector ι χ δ) : Prop where
  sound : c'.Sound
  capped : c'.Capped
  caps : c'.caps = c.caps
  rows : ∀ k row, c'.byKey.get? k = some row →
    c.byKey.get? k = some row ∨ row.toOffer = o ∧ row.encodedSize = size o
  whole : c'.truncated = false → c.truncated = false ∧
    (c.outranked o = true ∧ c'.byKey = c.byKey ∨
      c.outranked o = false ∧ c'.byKey = (c.place size o).byKey)
  selected : Fits size c o → c'.retained = newest ReadingKey.channel c.caps.perChannel.toNat
    c.caps.total.toNat (insert o.key c.retained)

theorem Sound.channel_bound (h : c.Sound) (hcapped : c.Capped) (channel : χ) :
    (c.retainedOf channel).card ≤ c.caps.perChannel.toNat := by
  have hle := hcapped.perChannel channel
  rw [h.count_eq] at hle
  omega

theorem Capped.total_bound (hcapped : c.Capped) : c.retained.card ≤ c.caps.total.toNat := by
  have hle := hcapped.total
  rw [← card_retained] at hle
  omega

theorem Sound.place_offered (h : c.Sound) (hcapped : c.Capped)
    (hsize : (size o : ℤ) ≤ c.caps.bytes) (houtranked : c.outranked o = false) :
    ∃ c', c.offer size o = some c' ∧ Offered size c o c' := by
  have hplaced : (c.place size o).Sound := h.place
  have hperChannel : 0 ≤ c.caps.perChannel :=
    (h.count_nonneg o.channel).trans (hcapped.perChannel o.channel)
  have htotal : 0 ≤ c.caps.total := (Int.natCast_nonneg _).trans hcapped.total
  obtain ⟨c₁, hrun₁, htrimmed₁, hcut, hothers, hcount⟩ :=
    hplaced.evictChannel_spec hperChannel o.channel
  have hcaps₁ : c₁.caps = c.caps := htrimmed₁.caps
  obtain ⟨c₂, hrun₂, htrimmed₂, htop⟩ := htrimmed₁.sound.evictTotal_spec (hcaps₁ ▸ htotal)
  have hcaps₂ : c₂.caps = c.caps := htrimmed₂.caps.trans hcaps₁
  obtain ⟨c₃, hrun₃, htrimmed₃, hbytes, hstay⟩ :=
    htrimmed₂.sound.evictBytes_spec (hcaps₂ ▸ (Int.natCast_nonneg _).trans hsize)
  have hcaps₃ : c₃.caps = c.caps := htrimmed₃.caps.trans hcaps₂
  obtain ⟨hsound, hsame⟩ := htrimmed₃.sound.compactHeaps_sound
  have htrimmed : Trimmed (c.place size o) c₃.compactHeaps :=
    ((htrimmed₁.trans htrimmed₂).trans htrimmed₃).trans (hsame.trimmed hsound)
  have hrun : c.offer size o = some c₃.compactHeaps := by
    rw [offer, if_neg (not_lt.mpr hsize), if_neg (Bool.eq_false_iff.mp houtranked), hrun₁]
    change (c₁.evictTotal.bind fun c => c.evictBytes.bind fun c => some c.compactHeaps) = _
    rw [hrun₂]
    change (c₂.evictBytes.bind fun c => some c.compactHeaps) = _
    rw [hrun₃]
    rfl
  refine ⟨c₃.compactHeaps, hrun, hsound, ⟨fun channel => ?_, ?_, ?_⟩, hsame.caps.trans hcaps₃,
    fun k row hget => ?_, fun htruncated => ?_, fun hfits => ?_⟩
  · have hlater : c₃.compactHeaps.count channel ≤ c₁.count channel :=
      ((htrimmed₂.trans htrimmed₃).trans (hsame.trimmed hsound)).count_le
        htrimmed₁.sound.toCounted channel
    rw [hsame.caps, hcaps₃]
    by_cases hchannel : channel = o.channel
    · rw [hchannel] at hlater ⊢
      exact hlater.trans hcount
    · have hfirst := htrimmed₁.count_le hplaced.toCounted channel
      rw [count_place, if_neg (Ne.symm hchannel)] at hfirst
      have hbefore := hcapped.perChannel channel
      cases hprior : c.byKey.get? o.key with
      | none =>
          rw [hprior, Option.map_none, Option.getD_none] at hfirst
          omega
      | some row =>
          rw [hprior, Option.map_some, Option.getD_some] at hfirst
          omega
  · have hlater : c₃.compactHeaps.retained.card ≤ c₂.retained.card :=
      Finset.card_le_card (htrimmed₃.trans (hsame.trimmed hsound)).retained_subset
    rw [htop, Newest.card_topOf, card_retained, hcaps₁] at hlater
    rw [hsame.caps, hcaps₃]
    omega
  · rw [hsame.bytes, hsame.caps, hcaps₃, ← hcaps₂]
    exact hbytes
  · have hfrom := htrimmed.sub k row hget
    rw [get?_place] at hfrom
    split at hfrom
    case isTrue =>
      cases hfrom
      exact .inr ⟨rfl, rfl⟩
    case isFalse => exact .inl hfrom
  · obtain ⟨hbefore, hwhole⟩ := htrimmed.whole htruncated
    exact ⟨hbefore, .inr ⟨houtranked, hwhole⟩⟩
  · have hsame₂ : c₃ = c₂ := hstay (hcaps₂ ▸ hfits.2 houtranked c₁ c₂ hrun₁ hrun₂)
    have hchannels : c₁.retained =
        Newest.channelTop ReadingKey.channel c.caps.perChannel.toNat
          (insert o.key c.retained) := by
      rw [← retained_place size]
      refine eq_channelTop hcut hothers fun channel hchannel => ?_
      refine (Finset.card_le_card fun j hj => ?_).trans (h.channel_bound hcapped channel)
      obtain ⟨hj, hjChannel⟩ := mem_retainedOf.mp hj
      rw [retained_place, Finset.mem_insert] at hj
      refine mem_retainedOf.mpr ⟨hj.resolve_left ?_, hjChannel⟩
      rintro rfl
      exact hchannel hjChannel.symm
    rw [hsame.retained_eq, hsame₂, htop, hchannels, hcaps₁, newest]

theorem Sound.offer_offered (h : c.Sound) (hcapped : c.Capped) (size : Offer ι χ δ → ℕ)
    (o : Offer ι χ δ) :
    ∃ c', c.offer size o = some c' ∧ Offered size c o c' := by
  by_cases hsize : c.caps.bytes < (size o : ℤ)
  · refine ⟨_, if_pos hsize, ⟨⟨h.keyed, h.counts, h.bytes⟩,
      ⟨h.all, h.channel, h.rank, h.channelRank⟩⟩,
      ⟨hcapped.perChannel, hcapped.total, hcapped.bytes⟩, rfl, fun _ _ => .inl,
      fun htruncated => (by cases htruncated), fun hfits => absurd hsize (not_lt.mpr hfits.1)⟩
  · cases houtranked : c.outranked o with
    | false => exact h.place_offered hcapped (not_lt.mp hsize) houtranked
    | true =>
        refine ⟨c, ?_, h, hcapped, rfl, fun _ _ => .inl,
          fun htruncated => ⟨htruncated, .inl ⟨houtranked, rfl⟩⟩, fun _ => ?_⟩
        · rw [offer, if_neg hsize, if_pos houtranked]
        · obtain ⟨prior, hprior, _⟩ := outranked_iff.mp houtranked
          rw [Finset.insert_eq_of_mem (mem_retained.mpr ⟨prior, hprior⟩),
            newest_eq_self (h.channel_bound hcapped) hcapped.total_bound]

theorem offerEach_total : ∀ (offers : List (Offer ι χ δ)) {c : BoundedCollector ι χ δ},
    c.Sound → c.Capped → ∃ c', c.offerEach size offers = some c'
  | [], c, _, _ => ⟨c, rfl⟩
  | o :: rest, c, h, hcapped => by
      obtain ⟨c₁, hrun, hoffered⟩ := h.offer_offered hcapped size o
      obtain ⟨c', hrest⟩ := offerEach_total rest hoffered.sound hoffered.capped
      exact ⟨c', by rw [offerEach, hrun]; exact hrest⟩

/-! ## The greatest authority -/

/-- Of the offers of its key it is the first of the greatest authority. -/
def FirstGreatest (offers : List (Offer ι χ δ)) (o : Offer ι χ δ) : Prop :=
  ∃ before after, offers = before ++ o :: after ∧
    (∀ b ∈ before, b.key = o.key → b.authority < o.authority) ∧
    ∀ b ∈ after, b.key = o.key → b.authority ≤ o.authority

variable {S T : List (Offer ι χ δ)} {r : Offer ι χ δ}

omit [LinearOrder ι] [LinearOrder χ] in
theorem FirstGreatest.le (h : FirstGreatest S r) (ho : o ∈ S) (hkey : o.key = r.key) :
    o.authority ≤ r.authority := by
  obtain ⟨before, after, rfl, hbefore, hafter⟩ := h
  rcases List.mem_append.mp ho with ho | ho
  · exact (hbefore o ho hkey).le
  · rcases List.mem_cons.mp ho with rfl | ho
    · exact le_rfl
    · exact hafter o ho hkey

omit [LinearOrder ι] [LinearOrder χ] in
theorem FirstGreatest.snoc (h : FirstGreatest S r)
    (ho : o.key = r.key → o.authority ≤ r.authority) : FirstGreatest (S ++ [o]) r := by
  obtain ⟨before, after, rfl, hbefore, hafter⟩ := h
  refine ⟨before, after ++ [o], by simp, hbefore, fun b hb hkey => ?_⟩
  rcases List.mem_append.mp hb with hb | hb
  · exact hafter b hb hkey
  · rw [List.mem_singleton] at hb
    exact hb ▸ ho (hb ▸ hkey)

omit [LinearOrder ι] [LinearOrder χ] in
theorem firstGreatest_snoc (h : ∀ b ∈ S, b.key = o.key → b.authority < o.authority) :
    FirstGreatest (S ++ [o]) o :=
  ⟨S, [], rfl, h, fun _ hb => by cases hb⟩

theorem FirstGreatest.filter {key : ReadingKey ι χ} (h : FirstGreatest S r) (hkey : r.key ≠ key) :
    FirstGreatest (S.filter (·.key ≠ key)) r := by
  obtain ⟨before, after, rfl, hbefore, hafter⟩ := h
  refine ⟨before.filter (·.key ≠ key), after.filter (·.key ≠ key), ?_,
    fun b hb => hbefore b (List.mem_of_mem_filter hb),
    fun b hb => hafter b (List.mem_of_mem_filter hb)⟩
  rw [List.filter_append, List.filter_cons_of_pos (by simpa using hkey)]

omit [LinearOrder ι] [LinearOrder χ] in
theorem FirstGreatest.expand {S' : List (Offer ι χ δ)} (h : FirstGreatest (S ++ T) r)
    (hT : ∀ t ∈ T, FirstGreatest S' t) (hcover : ∀ o ∈ S', ∃ t ∈ T, t.key = o.key) :
    FirstGreatest (S ++ S') r := by
  obtain ⟨before, after, hsplit, hbefore, hafter⟩ := h
  rcases List.append_eq_append_iff.mp hsplit with ⟨early, hearly, hlate⟩ | ⟨early, hearly, hlate⟩
  · -- among the offers that stand for others
    obtain ⟨before', after', rfl, hbefore', hafter'⟩ :=
      hT r (hlate ▸ List.mem_append_right early List.mem_cons_self)
    refine ⟨S ++ before', after', by simp, fun b hb hkey => ?_, hafter'⟩
    rcases List.mem_append.mp hb with hb | hb
    · exact hbefore b (hearly ▸ List.mem_append_left early hb) hkey
    · exact hbefore' b hb hkey
  · cases early with
    | nil =>
        rw [List.append_nil] at hearly
        obtain ⟨before', after', rfl, hbefore', hafter'⟩ :=
          hT r (by rw [List.nil_append] at hlate; exact hlate ▸ List.mem_cons_self)
        refine ⟨S ++ before', after', by simp, fun b hb hkey => ?_, hafter'⟩
        rcases List.mem_append.mp hb with hb | hb
        · exact hbefore b (hearly ▸ hb) hkey
        · exact hbefore' b hb hkey
    | cons first later =>
        rw [List.cons_append, List.cons.injEq] at hlate
        obtain ⟨rfl, rfl⟩ := hlate
        refine ⟨before, later ++ S', by rw [hearly]; simp, hbefore, fun b hb hkey => ?_⟩
        rcases List.mem_append.mp hb with hb | hb
        · exact hafter b (List.mem_append_left T hb) hkey
        · obtain ⟨t, ht, htkey⟩ := hcover b hb
          exact ((hT t ht).le hb htkey.symm).trans
            (hafter t (List.mem_append_right later ht) (htkey.trans hkey))

structure Kept (size : Offer ι χ δ → ℕ) (S : List (Offer ι χ δ)) (c : BoundedCollector ι χ δ) :
    Prop where
  sound : c.Sound
  capped : c.Capped
  sized : ∀ k row, c.byKey.get? k = some row → row.encodedSize = size row.toOffer
  greatest : c.truncated = false → ∀ k row, c.byKey.get? k = some row →
    FirstGreatest S row.toOffer
  whole : c.truncated = false → ∀ o ∈ S, o.key ∈ c.retained

theorem Kept.offered (h : Kept size S c) (hoffered : Offered size c o c') :
    Kept size (S ++ [o]) c' where
  sound := hoffered.sound
  capped := hoffered.capped
  sized k row hget := by
    rcases hoffered.rows k row hget with hold | ⟨hrow, hsize⟩
    · exact h.sized k row hold
    · rw [hrow, hsize]
  greatest htruncated k row hget := by
    obtain ⟨hbefore, ⟨houtranked, hsame⟩ | ⟨houtranked, hplaced⟩⟩ := hoffered.whole htruncated
    · rw [hsame] at hget
      refine (h.greatest hbefore k row hget).snoc fun hkey => ?_
      obtain ⟨prior, hprior, hle⟩ := outranked_iff.mp houtranked
      rw [hkey, ← CollectedRow.key, h.sound.keyed k row hget, hget, Option.some.injEq] at hprior
      exact hprior ▸ hle
    · rw [hplaced, get?_place] at hget
      split at hget
      case isTrue =>
        cases hget
        refine firstGreatest_snoc fun b hb hkey => ?_
        obtain ⟨prior, hprior⟩ := mem_retained.mp (h.whole hbefore b hb)
        have hle := (h.greatest hbefore b.key prior hprior).le hb
          (h.sound.keyed b.key prior hprior).symm
        refine hle.trans_lt (not_le.mp fun hprevails => ?_)
        exact Bool.eq_false_iff.mp houtranked
          (outranked_iff.mpr ⟨prior, hkey ▸ hprior, hprevails⟩)
      case isFalse hne =>
        refine (h.greatest hbefore k row hget).snoc fun hkey => absurd ?_ hne
        rw [hkey, ← CollectedRow.key, h.sound.keyed k row hget]
  whole htruncated b hb := by
    obtain ⟨hbefore, ⟨houtranked, hsame⟩ | ⟨houtranked, hplaced⟩⟩ := hoffered.whole htruncated
    · rw [retained, hsame]
      rcases List.mem_append.mp hb with hb | hb
      · exact h.whole hbefore b hb
      · obtain ⟨prior, hprior, _⟩ := outranked_iff.mp houtranked
        rw [List.mem_singleton.mp hb]
        exact mem_retained.mpr ⟨prior, hprior⟩
    · rw [retained, hplaced]
      change b.key ∈ (c.place size o).retained
      rw [retained_place, Finset.mem_insert]
      rcases List.mem_append.mp hb with hb | hb
      · exact .inr (h.whole hbefore b hb)
      · exact .inl (congrArg Offer.key (List.mem_singleton.mp hb))

theorem Kept.offerEach : ∀ {T S : List (Offer ι χ δ)} {c c' : BoundedCollector ι χ δ},
    Kept size S c → c.offerEach size T = some c' →
      Kept size (S ++ T) c' ∧ c'.caps = c.caps ∧ (c'.truncated = false → c.truncated = false)
  | [], S, c, c', h, hrun => by
      cases hrun
      exact ⟨by rwa [List.append_nil], rfl, id⟩
  | o :: rest, S, c, c', h, hrun => by
      obtain ⟨c₁, hfirst, hoffered⟩ := h.sound.offer_offered h.capped size o
      rw [BoundedCollector.offerEach, hfirst] at hrun
      obtain ⟨hkept, hcaps, htruncated⟩ := (h.offered hoffered).offerEach hrun
      rw [List.append_assoc] at hkept
      exact ⟨hkept, hcaps.trans hoffered.caps, fun hend => (hoffered.whole (htruncated hend)).1⟩

theorem ordered_perm : c.ordered.Perm c.byKey.values := List.mergeSort_perm _ _

theorem mem_finish : r ∈ c.finish ↔ ∃ k row, c.byKey.get? k = some row ∧ row.toOffer = r := by
  rw [finish, List.mem_map]
  constructor
  · rintro ⟨row, hrow, rfl⟩
    obtain ⟨k, hget⟩ := mem_values.mp (ordered_perm.mem_iff.mp hrow)
    exact ⟨k, row, hget, rfl⟩
  · rintro ⟨k, row, hget, rfl⟩
    exact ⟨row, ordered_perm.mem_iff.mpr (mem_values.mpr ⟨k, hget⟩), rfl⟩

/-- The collector that the rows of a staged one are offered to. -/
def joined (c staged : BoundedCollector ι χ δ) : BoundedCollector ι χ δ :=
  { c with
    rowsExamined := c.rowsExamined + staged.rowsExamined
    rowsDroppedByCaps := c.rowsDroppedByCaps + staged.rowsDroppedByCaps
    truncated := c.truncated || staged.truncated }

theorem Kept.joined (h : Kept size S c) (staged : BoundedCollector ι χ δ) :
    Kept size S (c.joined staged) where
  sound := ⟨⟨h.sound.keyed, h.sound.counts, h.sound.bytes⟩,
    ⟨h.sound.all, h.sound.channel, h.sound.rank, h.sound.channelRank⟩⟩
  capped := ⟨h.capped.perChannel, h.capped.total, h.capped.bytes⟩
  sized := h.sized
  greatest htruncated := h.greatest (Bool.or_eq_false_iff.mp htruncated).1
  whole htruncated := h.whole (Bool.or_eq_false_iff.mp htruncated).1

theorem Kept.merged {S' : List (Offer ι χ δ)} {staged : BoundedCollector ι χ δ}
    (h : Kept size S c) (hstaged : Kept size S' staged)
    (hrun : c.mergeVerified size staged = some c') :
    Kept size (S ++ S') c' ∧ c'.caps = c.caps := by
  obtain ⟨hkept, hcaps, htruncated⟩ := (h.joined staged).offerEach hrun
  have hquiet (hend : c'.truncated = false) : staged.truncated = false :=
    (Bool.or_eq_false_iff.mp (htruncated hend)).2
  have hcover (hend : c'.truncated = false) : ∀ o ∈ S', ∃ t ∈ staged.finish, t.key = o.key := by
    intro o ho
    obtain ⟨row, hrow⟩ := mem_retained.mp (hstaged.whole (hquiet hend) o ho)
    exact ⟨row.toOffer, mem_finish.mpr ⟨_, row, hrow, rfl⟩, hstaged.sound.keyed _ row hrow⟩
  refine ⟨⟨hkept.sound, hkept.capped, hkept.sized, fun hend k row hget => ?_,
    fun hend o ho => ?_⟩, hcaps⟩
  · refine (hkept.greatest hend k row hget).expand (fun t ht => ?_) (hcover hend)
    obtain ⟨j, other, hother, rfl⟩ := mem_finish.mp ht
    exact hstaged.greatest (hquiet hend) j other hother
  · rcases List.mem_append.mp ho with ho | ho
    · exact hkept.whole hend o (List.mem_append_left _ ho)
    · obtain ⟨t, ht, hkey⟩ := hcover hend o ho
      exact hkey ▸ hkept.whole hend t (List.mem_append_right S ht)

/-- `discard_if_current` removes the row of the key. -/
def discards (c : BoundedCollector ι χ δ) (key : ReadingKey ι χ) (authority : ℤ ×ₗ ℤ) : Bool :=
  (c.byKey.get? key).any fun row => row.authority = authority

theorem discardIfCurrent_eq (key : ReadingKey ι χ) (authority : ℤ ×ₗ ℤ) :
    c.discards key authority = false ∧ c.discardIfCurrent key authority = c ∨
      ∃ row, c.discards key authority = true ∧ c.byKey.get? key = some row ∧
        c.discardIfCurrent key authority = c.remove row := by
  rw [discards, discardIfCurrent]
  cases c.byKey.get? key with
  | none => exact .inl ⟨rfl, rfl⟩
  | some row =>
      by_cases hauthority : row.authority = authority
      · exact .inr ⟨row, decide_eq_true hauthority, rfl, if_neg (not_not.mpr hauthority)⟩
      · exact .inl ⟨decide_eq_false hauthority, if_pos hauthority⟩

theorem Sound.remove (h : c.Sound) (hrow : c.byKey.get? row.key = some row) :
    (c.remove row).Sound where
  toCounted := h.toCounted.remove hrow
  all k other hother := h.all k other (get?_remove.mp hother).2
  channel k other hother := h.channel k other (get?_remove.mp hother).2
  rank := h.rank
  channelRank := h.channelRank

theorem Capped.remove (hcapped : c.Capped) : (c.remove row).Capped where
  perChannel channel := by
    rw [count_remove]
    have hle := hcapped.perChannel channel
    change _ ≤ c.caps.perChannel
    split <;> omega
  total := by
    have hlength : (c.remove row).byKey.entries.length ≤ c.byKey.entries.length :=
      List.length_filter_le _ _
    exact (Int.ofNat_le.mpr hlength).trans hcapped.total
  bytes := by
    have hle := hcapped.bytes
    change c.retainedEncodedBytes - (row.encodedSize : ℤ) ≤ c.caps.bytes
    omega

theorem Kept.removed (h : Kept size S c) (hrow : c.byKey.get? k = some row) :
    Kept size (S.filter (·.key ≠ k)) (c.remove row) := by
  have hkey := h.sound.keyed k row hrow
  refine ⟨h.sound.remove (hkey ▸ hrow), h.capped.remove,
    fun j other hother => h.sized j other (get?_remove.mp hother).2,
    fun htruncated j other hother => ?_, fun htruncated o ho => ?_⟩
  · obtain ⟨hne, hother⟩ := get?_remove.mp hother
    refine (h.greatest htruncated j other hother).filter ?_
    rw [← CollectedRow.key, h.sound.keyed j other hother, ← hkey]
    exact hne
  · obtain ⟨ho, hne⟩ := List.mem_filter.mp ho
    rw [retained_remove, Finset.mem_erase, hkey]
    exact ⟨of_decide_eq_true hne, h.whole htruncated o ho⟩

def Valid (caps : CollectorCaps) : Prop := 0 ≤ caps.perChannel ∧ 0 ≤ caps.total ∧ 0 ≤ caps.bytes

/-- A collector after a run of calls, with the offers that stand. -/
inductive Reached (size : Offer ι χ δ → ℕ) :
    CollectorCaps → List (Offer ι χ δ) → BoundedCollector ι χ δ → Prop
  | new {caps} (hvalid : Valid caps) : Reached size caps [] (new caps)
  | offer {caps S c c'} (h : Reached size caps S c) (o : Offer ι χ δ)
      (hrun : c.offer size o = some c') : Reached size caps (S ++ [o]) c'
  | merge {caps S c caps' S' staged c'} (h : Reached size caps S c)
      (hstaged : Reached size caps' S' staged) (hrun : c.mergeVerified size staged = some c') :
      Reached size caps (S ++ S') c'
  | discard {caps S c} (h : Reached size caps S c) (key : ReadingKey ι χ) (authority : ℤ ×ₗ ℤ) :
      Reached size caps (if c.discards key authority then S.filter (·.key ≠ key) else S)
        (c.discardIfCurrent key authority)
  | examine {caps S c} (h : Reached size caps S c) : Reached size caps S c.noteExamined
  | reject {caps S c caps' S' staged} (h : Reached size caps S c)
      (hstaged : Reached size caps' S' staged) : Reached size caps S (c.rejectUnverified staged)

/-- The byte cap binds at none of the offers. -/
def FitsEach (size : Offer ι χ δ → ℕ) : List (Offer ι χ δ) → BoundedCollector ι χ δ → Prop
  | [], _ => True
  | o :: rest, c => Fits size c o ∧ ∀ c', c.offer size o = some c' → FitsEach size rest c'

/-- A run in which the byte cap never binds and no row is discarded, and in which the merged
collectors have the caps of the collector that they are merged into. -/
inductive Unbound (size : Offer ι χ δ → ℕ) (caps : CollectorCaps) :
    List (Offer ι χ δ) → BoundedCollector ι χ δ → Prop
  | new (hvalid : Valid caps) : Unbound size caps [] (new caps)
  | offer {S : List (Offer ι χ δ)} {c c' : BoundedCollector ι χ δ} (h : Unbound size caps S c)
      (o : Offer ι χ δ) (hfits : Fits size c o) (hrun : c.offer size o = some c') :
      Unbound size caps (S ++ [o]) c'
  | merge {S S' : List (Offer ι χ δ)} {c staged c' : BoundedCollector ι χ δ}
      (h : Unbound size caps S c) (hstaged : Unbound size caps S' staged)
      (hfits : FitsEach size staged.finish (c.joined staged))
      (hrun : c.mergeVerified size staged = some c') : Unbound size caps (S ++ S') c'
  | discard {S : List (Offer ι χ δ)} {c : BoundedCollector ι χ δ} (h : Unbound size caps S c)
      (key : ReadingKey ι χ) (authority : ℤ ×ₗ ℤ) (hidle : c.discards key authority = false) :
      Unbound size caps S (c.discardIfCurrent key authority)
  | examine {S : List (Offer ι χ δ)} {c : BoundedCollector ι χ δ} (h : Unbound size caps S c) :
      Unbound size caps S c.noteExamined
  | reject {S S' : List (Offer ι χ δ)} {c staged : BoundedCollector ι χ δ}
      {caps' : CollectorCaps} (h : Unbound size caps S c)
      (hstaged : Reached size caps' S' staged) : Unbound size caps S (c.rejectUnverified staged)

theorem new_kept {caps : CollectorCaps} (hvalid : Valid caps) :
    Kept size [] (new caps : BoundedCollector ι χ δ) where
  sound :=
    { keyed := fun _ _ hget => by cases hget
      counts := fun _ => rfl
      bytes := rfl
      all := fun _ _ hget => by cases hget
      channel := fun _ _ hget => by cases hget
      rank := fun _ he => by cases he
      channelRank := fun _ _ he => by cases he }
  capped := ⟨fun _ => hvalid.1, hvalid.2.1, hvalid.2.2⟩
  sized _ _ hget := by cases hget
  greatest _ _ _ hget := by cases hget
  whole _ _ ho := by cases ho

theorem Kept.counters (h : Kept size S c) (examined : ℕ) :
    Kept size S { c with rowsExamined := examined } where
  sound := ⟨⟨h.sound.keyed, h.sound.counts, h.sound.bytes⟩,
    ⟨h.sound.all, h.sound.channel, h.sound.rank, h.sound.channelRank⟩⟩
  capped := ⟨h.capped.perChannel, h.capped.total, h.capped.bytes⟩
  sized := h.sized
  greatest := h.greatest
  whole := h.whole

variable {caps : CollectorCaps}

theorem Reached.kept (h : Reached size caps S c) : Kept size S c ∧ c.caps = caps := by
  induction h with
  | new hvalid => exact ⟨new_kept hvalid, rfl⟩
  | offer _ o hrun ih =>
      obtain ⟨c₁, hfirst, hoffered⟩ := ih.1.sound.offer_offered ih.1.capped _ o
      rw [hrun, Option.some.injEq] at hfirst
      cases hfirst
      exact ⟨ih.1.offered hoffered, hoffered.caps.trans ih.2⟩
  | merge _ _ hrun ih ihstaged =>
      obtain ⟨hkept, hcaps⟩ := ih.1.merged ihstaged.1 hrun
      exact ⟨hkept, hcaps.trans ih.2⟩
  | @discard _ _ c _ key authority ih =>
      rcases c.discardIfCurrent_eq key authority with ⟨hidle, hsame⟩ | ⟨row, hdone, hrow, hremove⟩
      · rw [hsame, if_neg (Bool.eq_false_iff.mp hidle)]
        exact ih
      · rw [hremove, if_pos hdone]
        exact ⟨ih.1.removed hrow, ih.2⟩
  | examine _ ih => exact ⟨ih.1.counters _, ih.2⟩
  | reject _ _ ih _ => exact ⟨ih.1.counters _, ih.2⟩

theorem Unbound.reached (h : Unbound size caps S c) : Reached size caps S c := by
  induction h with
  | new hvalid => exact .new hvalid
  | offer _ o _ hrun ih => exact .offer ih o hrun
  | merge _ _ _ hrun ih ihstaged => exact .merge ih ihstaged hrun
  | @discard S c _ key authority hidle ih =>
      have hreached := ih.discard key authority
      rwa [if_neg (Bool.eq_false_iff.mp hidle)] at hreached
  | examine _ ih => exact .examine ih
  | reject _ hstaged ih => exact .reject ih hstaged

def keys (S : List (Offer ι χ δ)) : Finset (ReadingKey ι χ) := (S.map Offer.key).toFinset

theorem keys_append : keys (S ++ T) = keys S ∪ keys T := by
  rw [keys, List.map_append, List.toFinset_append, keys, keys]

def CollectorCaps.newest (caps : CollectorCaps) (s : Finset (ReadingKey ι χ)) :
    Finset (ReadingKey ι χ) :=
  Newest.newest ReadingKey.channel caps.perChannel.toNat caps.total.toNat s

theorem offerEach_newest :
    ∀ {T : List (Offer ι χ δ)} {c c' : BoundedCollector ι χ δ} {K : Finset (ReadingKey ι χ)},
      c.Sound → c.Capped → c.caps = caps → c.retained = CollectorCaps.newest caps K →
        FitsEach size T c → c.offerEach size T = some c' →
          c'.retained = CollectorCaps.newest caps (K ∪ keys T)
  | [], c, c', K, _, _, _, hretained, _, hrun => by
      cases hrun
      rw [hretained]
      exact congrArg _ (Finset.union_empty K).symm
  | o :: rest, c, c', K, h, hcapped, hcaps, hretained, hfits, hrun => by
      obtain ⟨c₁, hfirst, hoffered⟩ := h.offer_offered hcapped size o
      rw [BoundedCollector.offerEach, hfirst] at hrun
      have hnext : c₁.retained = CollectorCaps.newest caps (insert o.key K) := by
        rw [hoffered.selected hfits.1, hretained, hcaps]
        exact newest_insert o.key
      have hrest := offerEach_newest hoffered.sound hoffered.capped (hoffered.caps.trans hcaps)
        hnext (hfits.2 c₁ hfirst) hrun
      rw [hrest]
      refine congrArg _ ?_
      rw [Finset.insert_union, keys, keys, List.map_cons, List.toFinset_cons, Finset.union_insert]

theorem keys_finish (h : c.Counted) : keys c.finish = c.retained := by
  ext k
  rw [keys, List.mem_toFinset, List.mem_map, mem_retained]
  constructor
  · rintro ⟨o, ho, rfl⟩
    obtain ⟨k, row, hget, rfl⟩ := mem_finish.mp ho
    refine ⟨row, ?_⟩
    change c.byKey.get? row.key = some row
    rw [h.keyed k row hget, hget]
  · rintro ⟨row, hget⟩
    exact ⟨row.toOffer, mem_finish.mpr ⟨k, row, hget, rfl⟩, h.keyed k row hget⟩

theorem Unbound.retained_eq (h : Unbound size caps S c) :
    c.retained = CollectorCaps.newest caps (keys S) := by
  induction h with
  | new => rfl
  | offer hbefore o hfits hrun ih =>
      obtain ⟨hkept, hcaps⟩ := hbefore.reached.kept
      have hone := offerEach_newest (T := [o]) hkept.sound hkept.capped hcaps ih
        ⟨hfits, fun _ _ => trivial⟩ (by rw [BoundedCollector.offerEach, hrun]; rfl)
      rw [hone, keys_append]
  | @merge S S' c staged c' hbefore hstaged hfits hrun ih ihstaged =>
      obtain ⟨hkept, hcaps⟩ := hbefore.reached.kept
      have hjoined := hkept.joined staged
      rw [offerEach_newest hjoined.sound hjoined.capped hcaps ih hfits hrun,
        keys_finish hstaged.reached.kept.1.sound.toCounted, ihstaged, keys_append]
      exact newest_union
  | @discard S c _ key authority hidle ih =>
      rcases c.discardIfCurrent_eq key authority with ⟨_, hsame⟩ | ⟨_, hdone, _⟩
      · rw [hsame, ih]
      · rw [hdone] at hidle
        cases hidle
  | examine _ ih => exact ih
  | reject _ _ ih => exact ih

/-- The counts are the numbers of rows and the bytes are the sum of their sizes. -/
structure Accounted (size : Offer ι χ δ → ℕ) (c : BoundedCollector ι χ δ) : Prop where
  counts : ∀ channel, c.count channel = (c.finish.filter (·.channel = channel)).length
  bytes : c.retainedEncodedBytes = (c.finish.map size).sum

theorem Kept.accounted (h : Kept size S c) : Accounted size c where
  counts channel := by
    have hkeys (k : ReadingKey ι χ) (row : CollectedRow ι χ δ) (hget : c.byKey.get? k = some row) :
        (if k.channel = channel then (1 : ℤ) else 0) = if row.channel = channel then 1 else 0 := by
      rw [← h.sound.keyed k row hget]
      rfl
    rw [h.sound.counts, Dict.total_congr hkeys, Dict.total_values, Dict.sum_indicator, finish,
      List.filter_map, List.length_map]
    exact congrArg _ (ordered_perm.filter _).length_eq.symm
  bytes := by
    have hsizes (k : ReadingKey ι χ) (row : CollectedRow ι χ δ)
        (hget : c.byKey.get? k = some row) : (row.encodedSize : ℤ) = (size row.toOffer : ℤ) :=
      congrArg _ (h.sized k row hget)
    rw [h.sound.bytes, Dict.total_congr hsizes, Dict.total_values, finish, Nat.cast_list_sum,
      List.map_map, List.map_map]
    exact (ordered_perm.map _).sum_eq.symm

/-- Whatever calls are made, the caps hold and the counters agree with the rows; every call
returns; a collector that is not marked has the first row of the greatest authority of every offer
that stands; and while the byte cap does not bind its keys are the newest that were offered. -/
theorem collector_keeps_newest (h : Reached size caps S c) :
    c.caps = caps ∧ c.Capped ∧ Accounted size c ∧
      (∀ o, ∃ c', c.offer size o = some c') ∧
      (∀ caps' S' staged, Reached size caps' S' staged →
        ∃ c', c.mergeVerified size staged = some c') ∧
      (c.truncated = false → ∀ o ∈ S, ∃ row, c.byKey.get? o.key = some row ∧
        FirstGreatest S row.toOffer) ∧
      (Unbound size caps S c → c.retained = CollectorCaps.newest caps (keys S)) := by
  obtain ⟨hkept, hcaps⟩ := h.kept
  refine ⟨hcaps, hkept.capped, hkept.accounted, fun o => ?_, fun _ _ staged _ => ?_,
    fun htruncated o ho => ?_, Unbound.retained_eq⟩
  · obtain ⟨c', hrun, _⟩ := hkept.sound.offer_offered hkept.capped size o
    exact ⟨c', hrun⟩
  · exact offerEach_total _ (hkept.joined staged).sound (hkept.joined staged).capped
  · obtain ⟨row, hrow⟩ := mem_retained.mp (hkept.whole htruncated o ho)
    exact ⟨row, hrow, hkept.greatest htruncated _ row hrow⟩

/-! ## A discarded row -/

def benchOffer : Offer String String Unit where
  timestampUs := 1
  instrumentId := "ls218"
  channel := "T1"
  value := none
  unit := "K"
  status := "ok"
  authority := toLex (1, 1)
  descriptor := ()

def benchCaps : CollectorCaps := ⟨2, 2, 1000⟩

/-- After the offer of a row of a hundred bytes. -/
def benchCollector : BoundedCollector String String Unit :=
  ((new benchCaps).offer (fun _ => 100) benchOffer).getD (new benchCaps)

theorem Unbound.offerEach : ∀ {T : List (Offer ι χ δ)} {S : List (Offer ι χ δ)}
    {c c' : BoundedCollector ι χ δ}, Unbound size caps S c → FitsEach size T c →
      c.offerEach size T = some c' → Unbound size caps (S ++ T) c'
  | [], S, c, c', h, _, hrun => by
      cases hrun
      rwa [List.append_nil]
  | o :: rest, S, c, c', h, hfits, hrun => by
      rw [BoundedCollector.offerEach] at hrun
      cases hfirst : c.offer size o with
      | none =>
          rw [hfirst] at hrun
          cases hrun
      | some c₁ =>
          rw [hfirst] at hrun
          have hrest := (h.offer o hfits.1 hfirst).offerEach (hfits.2 c₁ hfirst) hrun
          rwa [List.append_assoc] at hrest

instance (size : Offer ι χ δ → ℕ) (c : BoundedCollector ι χ δ) (o : Offer ι χ δ) :
    Decidable (Fits size c o) :=
  decidable_of_iff ((size o : ℤ) ≤ c.caps.bytes ∧ (c.outranked o = false →
      ∀ c₁ ∈ (c.place size o).evictChannel o.channel, ∀ c₂ ∈ c₁.evictTotal,
        c₂.retainedEncodedBytes ≤ c.caps.bytes))
    ⟨fun h => ⟨h.1, fun ho c₁ c₂ h₁ h₂ => h.2 ho c₁ h₁ c₂ h₂⟩,
      fun h => ⟨h.1, fun ho c₁ h₁ c₂ h₂ => h.2 ho c₁ c₂ h₁ h₂⟩⟩

instance fitsEachDecidable (size : Offer ι χ δ → ℕ) :
    ∀ (T : List (Offer ι χ δ)) (c : BoundedCollector ι χ δ), Decidable (FitsEach size T c)
  | [], _ => .isTrue trivial
  | o :: rest, c =>
      have (c' : BoundedCollector ι χ δ) := fitsEachDecidable size rest c'
      decidable_of_iff (Fits size c o ∧ ∀ c' ∈ c.offer size o, FitsEach size rest c')
        ⟨fun h => ⟨h.1, h.2⟩, fun h => ⟨h.1, h.2⟩⟩

/-- The same channel at another time, by another record. -/
def laterOffer (timestampUs record : ℤ) : Offer String String Unit :=
  { benchOffer with timestampUs := timestampUs, authority := toLex (1, record) }

/-- The last of the offers replaces the row of the second. -/
def replacingOffers : List (Offer String String Unit) :=
  [benchOffer, laterOffer 2 1, laterOffer 2 2]

/-- The last of the offers evicts the row of the first. -/
def evictingOffers : List (Offer String String Unit) := replacingOffers ++ [laterOffer 3 1]

def collected (offers : List (Offer String String Unit)) : BoundedCollector String String Unit :=
  ((new benchCaps).offerEach (fun _ => 100) offers).getD (new benchCaps)

theorem collected_unbound (offers : List (Offer String String Unit))
    (hfits : FitsEach (fun _ => 100) offers (new benchCaps))
    (hrun : ((new benchCaps).offerEach (fun _ => 100) offers).isSome = true) :
    Unbound (fun _ => 100) benchCaps offers (collected offers) := by
  obtain ⟨c, hc⟩ := Option.isSome_iff_exists.mp hrun
  rw [collected, hc]
  exact (Unbound.new ⟨by decide, by decide, by decide⟩).offerEach hfits hc

/-- Of three keys the two newest are kept, one with its second record. -/
theorem collector_keeps_newest_bench :
    ((collected replacingOffers).truncated = false ∧ ∃ row,
      (collected replacingOffers).byKey.get? (laterOffer 2 1).key = some row ∧
        FirstGreatest replacingOffers row.toOffer) ∧
      (collected evictingOffers).Capped ∧
      (collected evictingOffers).retained = CollectorCaps.newest benchCaps (keys evictingOffers) ∧
      (collected evictingOffers).byKey.values.map (fun row =>
        (row.timestampUs, ofLex row.authority)) = [(2, 1, 2), (3, 1, 1)] := by
  have hreplacing := collected_unbound replacingOffers (by decide +kernel)
    (by decide +kernel)
  have hevicting := collected_unbound evictingOffers (by decide +kernel)
    (by decide +kernel)
  obtain ⟨_, _, _, _, _, hwhole, _⟩ := collector_keeps_newest hreplacing.reached
  obtain ⟨_, hcapped, _, _, _, _, hnewest⟩ := collector_keeps_newest hevicting.reached
  exact ⟨⟨by decide +kernel,
      hwhole (by decide +kernel) (laterOffer 2 1) (by simp [replacingOffers])⟩,
    hcapped, hnewest hevicting, by decide +kernel⟩

theorem evictWhile_endless {exceeds : BoundedCollector ι χ δ → Bool}
    {round : BoundedCollector ι χ δ → BoundedCollector ι χ δ} {I : BoundedCollector ι χ δ → Prop}
    (hround : ∀ c, I c → exceeds c = true ∧ I (round c)) :
    ∀ (fuel : ℕ) {c : BoundedCollector ι χ δ}, I c → evictWhile exceeds round fuel c = none
  | 0, _, _ => rfl
  | fuel + 1, c, hI => by
      rw [evictWhile, if_pos (hround c hI).1]
      exact evictWhile_endless hround fuel (hround c hI).2

theorem caps_evictFromAll (c : BoundedCollector ι χ δ) : c.evictFromAll.caps = c.caps := by
  rw [evictFromAll]
  cases c.rowOf (c.globalHeap.popLive c.isLive).1 with
  | none => rfl
  | some row =>
      rw [evictVictim, evict]
      split <;> rfl

/-- A row that was offered and discarded is not kept, although the collector is not marked; and
with a cap below zero the loop for the total does not end. -/
theorem discarded_row_is_lost :
    benchCollector.discards benchOffer.key benchOffer.authority = true ∧
      (benchCollector.discardIfCurrent benchOffer.key benchOffer.authority).truncated = false ∧
      (benchCollector.discardIfCurrent benchOffer.key benchOffer.authority).retained = ∅ ∧
      CollectorCaps.newest benchCaps (keys [benchOffer]) = {benchOffer.key} ∧
      ∀ fuel, evictWhile totalExceeds evictFromAll fuel
        ((new ⟨2, -1, 1000⟩).place (fun _ => 100) benchOffer) = none := by
  refine ⟨rfl, rfl, rfl, newest_eq_self (fun channel => ?_) (by decide), fun fuel => ?_⟩
  · exact (Finset.card_le_card (Finset.filter_subset _ _)).trans (by decide)
  · refine evictWhile_endless (I := fun c => c.caps.total = -1) (fun c hcaps => ⟨?_, ?_⟩) fuel rfl
    · refine decide_eq_true ?_
      rw [hcaps]
      omega
    · rw [caps_evictFromAll, hcaps]

end BoundedCollector
end Storage
end CryoDaq
