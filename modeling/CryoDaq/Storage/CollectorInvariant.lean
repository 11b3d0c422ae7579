import CryoDaq.Order.Newest
import CryoDaq.Python.DictTotals
import CryoDaq.Storage.BoundedCollector

/-!
# The counters and the heaps of the bounded collector

What holds between the calls: the counters agree with the rows, and every row has its entry in the
heap of all rows and in that of its channel.

**Eviction.**  A round of a loop evicts the row of the least key, of the channel or of all.  The
loops therefore end, and what they leave is a selection of the newest keys.
-/

namespace CryoDaq
namespace Storage
namespace BoundedCollector

open Newest (inChannel topOf mem_topOf mem_inChannel topOf_eq_self topOf_erase_least card_topOf)

variable {ι χ δ : Type} [LinearOrder ι] [LinearOrder χ] {c c' : BoundedCollector ι χ δ}
  {channel : χ} {k : ReadingKey ι χ} {row : CollectedRow ι χ δ}

def retained (c : BoundedCollector ι χ δ) : Finset (ReadingKey ι χ) := c.byKey.keys.toFinset

def retainedOf (c : BoundedCollector ι χ δ) (channel : χ) : Finset (ReadingKey ι χ) :=
  inChannel ReadingKey.channel c.retained channel

theorem mem_retained : k ∈ c.retained ↔ ∃ row, c.byKey.get? k = some row := by
  rw [retained, List.mem_toFinset, Dict.mem_keys]

theorem mem_retainedOf : k ∈ c.retainedOf channel ↔ k ∈ c.retained ∧ k.channel = channel :=
  mem_inChannel

structure Counted (c : BoundedCollector ι χ δ) : Prop where
  keyed : ∀ k row, c.byKey.get? k = some row → row.key = k
  counts : ∀ channel, c.count channel =
    c.byKey.total fun k _ => if k.channel = channel then 1 else 0
  bytes : c.retainedEncodedBytes = c.byKey.total fun _ row => row.encodedSize

/-- Every row has its entry in both heaps, and the entries of a heap are ranked by their keys. -/
structure Covered (c : BoundedCollector ι χ δ) : Prop where
  all : ∀ k row, c.byKey.get? k = some row → row.entry ∈ c.globalHeap.items
  channel : ∀ k row, c.byKey.get? k = some row → row.entry ∈ (c.channelHeap k.channel).items
  rank : ∀ e ∈ c.globalHeap.items, e.rank = e.key
  channelRank : ∀ channel, ∀ e ∈ (c.channelHeap channel).items,
    e.rank = e.key ∧ e.key.channel = channel

structure Sound (c : BoundedCollector ι χ δ) : Prop extends Counted c, Covered c

structure Capped (c : BoundedCollector ι χ δ) : Prop where
  perChannel : ∀ channel, c.count channel ≤ c.caps.perChannel
  total : (c.byKey.entries.length : ℤ) ≤ c.caps.total
  bytes : c.retainedEncodedBytes ≤ c.caps.bytes

theorem Counted.count_eq (h : c.Counted) (channel : χ) :
    c.count channel = (c.retainedOf channel).card := by
  rw [h.counts, retainedOf, inChannel, retained, Dict.card_filter_keys]

theorem Counted.count_nonneg (h : c.Counted) (channel : χ) : 0 ≤ c.count channel := by
  rw [h.count_eq]
  exact Int.natCast_nonneg _

theorem card_retained : c.retained.card = c.byKey.entries.length := c.byKey.card_keys

/-! ## A row leaves -/

theorem count_remove (channel : χ) : (c.remove row).count channel =
    c.count channel - if row.key.channel = channel then 1 else 0 := by
  change (Dict.get? (if c.count row.channel - 1 = 0 then
      (c.channelCounts.set row.channel (c.count row.channel - 1)).erase row.channel
    else c.channelCounts.set row.channel (c.count row.channel - 1)) channel).getD 0 =
      c.count channel - if row.channel = channel then 1 else 0
  split
  case isTrue hzero =>
    rw [Dict.get?_erase, Dict.get?_set]
    by_cases hchannel : channel = row.channel
    · rw [if_pos hchannel, if_pos hchannel.symm, hchannel]
      exact hzero.symm
    · rw [if_neg hchannel, if_neg hchannel, if_neg (Ne.symm hchannel), sub_zero]
      rfl
  case isFalse =>
    rw [Dict.get?_set]
    by_cases hchannel : channel = row.channel
    · rw [if_pos hchannel, if_pos hchannel.symm, hchannel]
      rfl
    · rw [if_neg hchannel, if_neg (Ne.symm hchannel), sub_zero]
      rfl

theorem get?_remove {row' : CollectedRow ι χ δ} :
    (c.remove row).byKey.get? k = some row' ↔ k ≠ row.key ∧ c.byKey.get? k = some row' := by
  change (c.byKey.erase row.key).get? k = some row' ↔ _
  rw [Dict.get?_erase]
  split
  case isTrue heq => exact ⟨fun h => (by cases h), fun h => absurd heq h.1⟩
  case isFalse hne => exact ⟨fun h => ⟨hne, h⟩, fun h => h.2⟩

theorem retained_remove : (c.remove row).retained = c.retained.erase row.key := by
  ext k
  rw [Finset.mem_erase, mem_retained, mem_retained]
  simp only [get?_remove, exists_and_left]

theorem Counted.remove (h : c.Counted) (hrow : c.byKey.get? row.key = some row) :
    (c.remove row).Counted where
  keyed k row' hget := h.keyed k row' (get?_remove.mp hget).2
  counts channel := by
    rw [count_remove, h.counts]
    change _ = (c.byKey.erase row.key).total _
    rw [Dict.total_erase, hrow]
    rfl
  bytes := by
    change c.retainedEncodedBytes - _ = (c.byKey.erase row.key).total _
    rw [Dict.total_erase, hrow, h.bytes]
    rfl

theorem isLive_iff {e : HeapEntry ι χ} :
    c.isLive e = true ↔ ∃ row, c.byKey.get? e.key = some row ∧ row.token = e.token := by
  rw [isLive, Option.any_eq_true]
  simp only [decide_eq_true_iff]

theorem Counted.isLive_entry (h : c.Counted) (hrow : c.byKey.get? k = some row) :
    c.isLive row.entry = true := by
  refine isLive_iff.mpr ⟨row, ?_, rfl⟩
  rw [← hrow]
  exact congrArg _ (h.keyed k row hrow)

theorem Counted.pop_victim (h : c.Counted) {heap : Heapq (HeapEntry ι χ)}
    {P : ReadingKey ι χ → Prop}
    (hcover : ∀ k row, c.byKey.get? k = some row → P k → row.entry ∈ heap.items)
    (hrank : ∀ e ∈ heap.items, e.rank = e.key ∧ P e.key) (hk : k ∈ c.retained) (hP : P k) :
    ∃ row, c.rowOf (heap.popLive c.isLive).1 = some row ∧ c.byKey.get? row.key = some row ∧
      P row.key ∧ (∀ j ∈ c.retained, P j → row.key ≤ j) ∧
      ∀ j row', c.byKey.get? j = some row' → P j → j ≠ row.key →
        row'.entry ∈ (heap.popLive c.isLive).2.items := by
  obtain ⟨first, hfirst⟩ := mem_retained.mp hk
  obtain ⟨e, hpop⟩ := Heapq.popLive_exists (hcover k first hfirst hP) (h.isLive_entry hfirst)
  obtain ⟨hmem, hlive⟩ := Heapq.popLive_mem hpop
  obtain ⟨row, hrow, _⟩ := isLive_iff.mp hlive
  have hkey : row.key = e.key := h.keyed e.key row hrow
  obtain ⟨heq, hPe⟩ := hrank e hmem
  refine ⟨row, ?_, hkey ▸ hrow, hkey ▸ hPe, ?_, ?_⟩
  · rw [hpop]
    exact hrow
  · intro j hj hPj
    obtain ⟨other, hother⟩ := mem_retained.mp hj
    have hle := Heapq.popLive_le hpop (hcover j other hother hPj) (h.isLive_entry hother)
    have hrankle : e.rank ≤ other.key := Prod.Lex.monotone_fst _ _ hle
    rw [heq, ← hkey, h.keyed j other hother] at hrankle
    exact hrankle
  · intro j other hother hPj hne
    refine Heapq.mem_afterLive hpop (hcover j other hother hPj) (h.isLive_entry hother) ?_
    intro hsame
    refine hne ?_
    rw [← h.keyed j other hother, hkey, ← hsame]
    rfl

/-- Some rows of a collector are left, and all of them if it is not marked. -/
structure Trimmed (c c' : BoundedCollector ι χ δ) : Prop where
  sound : c'.Sound
  caps : c'.caps = c.caps
  sub : ∀ k row, c'.byKey.get? k = some row → c.byKey.get? k = some row
  whole : c'.truncated = false → c.truncated = false ∧ c'.byKey = c.byKey

theorem Trimmed.refl (h : c.Sound) : Trimmed c c := ⟨h, rfl, fun _ _ => id, fun h => ⟨h, rfl⟩⟩

theorem Trimmed.trans {c'' : BoundedCollector ι χ δ} (h : Trimmed c c') (h' : Trimmed c' c'') :
    Trimmed c c'' where
  sound := h'.sound
  caps := h'.caps.trans h.caps
  sub k row hget := h.sub k row (h'.sub k row hget)
  whole htruncated := by
    obtain ⟨hbefore, hsame⟩ := h'.whole htruncated
    obtain ⟨hfirst, hfirstSame⟩ := h.whole hbefore
    exact ⟨hfirst, hsame.trans hfirstSame⟩

theorem Trimmed.retained_subset (h : Trimmed c c') : c'.retained ⊆ c.retained := by
  intro k hk
  obtain ⟨row, hrow⟩ := mem_retained.mp hk
  exact mem_retained.mpr ⟨row, h.sub k row hrow⟩

theorem Trimmed.count_le (h : Trimmed c c') (hc : c.Counted) (channel : χ) :
    c'.count channel ≤ c.count channel := by
  rw [h.sound.count_eq, hc.count_eq, Int.ofNat_le]
  exact Finset.card_le_card (Newest.inChannel_mono h.retained_subset channel)

structure Evicts (c c' : BoundedCollector ι χ δ) (k : ReadingKey ι χ) : Prop where
  trimmed : Trimmed c c'
  mem : k ∈ c.retained
  keys : c'.retained = c.retained.erase k

theorem evictVictim_evicts {popped : BoundedCollector ι χ δ} (h : c.Counted)
    (hrow : c.byKey.get? row.key = some row) (hkeys : popped.byKey = c.byKey)
    (hcounts : popped.channelCounts = c.channelCounts)
    (hbytes : popped.retainedEncodedBytes = c.retainedEncodedBytes)
    (hcaps : popped.caps = c.caps) (hcovered : (popped.remove row).Covered) :
    Evicts c (popped.evictVictim (some row)) row.key := by
  have hpopped : popped.Counted := by
    refine ⟨?_, fun channel => ?_, ?_⟩
    · rw [hkeys]
      exact h.keyed
    · rw [hkeys, ← h.counts, count, hcounts]
      rfl
    · rw [hkeys, hbytes, h.bytes]
  have hthere : popped.byKey.get? row.key = some row := by rw [hkeys, hrow]
  have hcounted := hpopped.remove hthere
  have hevict : popped.evictVictim (some row) =
      { popped.remove row with
        rowsDroppedByCaps := popped.rowsDroppedByCaps + 1
        truncated := true } := by
    rw [evictVictim, evict, if_pos]
    rw [hthere]
    exact decide_eq_true rfl
  rw [hevict]
  refine ⟨⟨?_, hcaps, fun k row' hget => ?_, fun htruncated => by cases htruncated⟩,
    mem_retained.mpr ⟨row, hrow⟩, ?_⟩
  · exact ⟨⟨hcounted.keyed, hcounted.counts, hcounted.bytes⟩,
      ⟨hcovered.all, hcovered.channel, hcovered.rank, hcovered.channelRank⟩⟩
  · rw [← hkeys]
    exact (get?_remove.mp hget).2
  · change (popped.remove row).retained = _
    rw [retained_remove, retained, hkeys]
    rfl

theorem Sound.evictFromAll_evicts (h : c.Sound) (hne : c.retained.Nonempty) :
    ∃ k, Evicts c c.evictFromAll k ∧ ∀ j ∈ c.retained, k ≤ j := by
  obtain ⟨k, hk⟩ := hne
  obtain ⟨row, hrowOf, hrow, _, hleast, hrest⟩ :=
    h.pop_victim (P := fun _ => True) (fun k row hget _ => h.all k row hget)
      (fun e he => ⟨h.rank e he, trivial⟩) hk trivial
  refine ⟨row.key, ?_, fun j hj => hleast j hj trivial⟩
  rw [evictFromAll, hrowOf]
  refine evictVictim_evicts h.toCounted hrow rfl rfl rfl rfl ⟨?_, ?_, ?_, h.channelRank⟩
  · intro j other hother
    obtain ⟨hne, hother⟩ := get?_remove.mp hother
    exact hrest j other hother trivial hne
  · intro j other hother
    exact h.channel j other (get?_remove.mp hother).2
  · exact fun e he => h.rank e (Heapq.mem_of_afterLive he)

theorem mem_channelHeap_of_set {heap : Heapq (HeapEntry ι χ)} {other : χ} {e : HeapEntry ι χ}
    (h : c'.channelHeaps = c.channelHeaps.set channel heap) :
    e ∈ (c'.channelHeap other).items ↔
      e ∈ (if other = channel then heap else c.channelHeap other).items := by
  rw [channelHeap, h, Dict.get?_set]
  split <;> rfl

theorem Sound.evictFromChannel_evicts (h : c.Sound) (hne : (c.retainedOf channel).Nonempty) :
    ∃ k, Evicts c (c.evictFromChannel channel) k ∧ k.channel = channel ∧
      ∀ j ∈ c.retainedOf channel, k ≤ j := by
  obtain ⟨k, hk⟩ := hne
  obtain ⟨hk, hchannel⟩ := mem_retainedOf.mp hk
  obtain ⟨row, hrowOf, hrow, hrowChannel, hleast, hrest⟩ :=
    h.pop_victim (P := fun k => k.channel = channel)
      (fun k row hget hP => hP ▸ h.channel k row hget) (h.channelRank channel) hk hchannel
  refine ⟨row.key, ?_, hrowChannel, fun j hj => ?_⟩
  · rw [evictFromChannel, hrowOf]
    refine evictVictim_evicts h.toCounted hrow rfl rfl rfl rfl ⟨?_, ?_, h.rank, ?_⟩
    · intro j other hother
      exact h.all j other (get?_remove.mp hother).2
    · intro j other hother
      obtain ⟨hne, hother⟩ := get?_remove.mp hother
      refine (mem_channelHeap_of_set rfl).mpr ?_
      by_cases hj : j.channel = channel
      · rw [if_pos hj]
        exact hrest j other hother hj hne
      · rw [if_neg hj]
        exact h.channel j other hother
    · intro ch e he
      replace he := (mem_channelHeap_of_set rfl).mp he
      by_cases hch : ch = channel
      · rw [if_pos hch] at he
        exact hch ▸ h.channelRank channel e (Heapq.mem_of_afterLive he)
      · rw [if_neg hch] at he
        exact h.channelRank ch e he
  · obtain ⟨hj, hjChannel⟩ := mem_retainedOf.mp hj
    exact hleast j hj hjChannel

theorem evictWhile_ends {exceeds : BoundedCollector ι χ δ → Bool}
    {round : BoundedCollector ι χ δ → BoundedCollector ι χ δ} {I : BoundedCollector ι χ δ → Prop}
    (hround : ∀ c, c.Sound → I c → exceeds c = true → ∃ k, Evicts c (round c) k ∧ I (round c)) :
    ∀ (fuel : ℕ) (c : BoundedCollector ι χ δ), c.Sound → I c → c.retained.card < fuel →
      ∃ c', evictWhile exceeds round fuel c = some c' ∧ Trimmed c c' ∧ I c' ∧ exceeds c' = false
  | 0, _, _, _, hfuel => absurd hfuel (Nat.not_lt_zero _)
  | fuel + 1, c, h, hI, hfuel => by
      rw [evictWhile]
      by_cases hexceeds : exceeds c = true
      · rw [if_pos hexceeds]
        obtain ⟨k, hevicts, hnext⟩ := hround c h hI hexceeds
        have hless : (round c).retained.card < fuel := by
          rw [hevicts.keys, Finset.card_erase_of_mem hevicts.mem]
          have hpos := Finset.card_pos.mpr ⟨k, hevicts.mem⟩
          omega
        obtain ⟨c', hrun, htrimmed, hend⟩ :=
          evictWhile_ends hround fuel (round c) hevicts.trimmed.sound hnext hless
        exact ⟨c', hrun, hevicts.trimmed.trans htrimmed, hend⟩
      · rw [if_neg hexceeds]
        exact ⟨c, rfl, .refl h, hI, Bool.eq_false_iff.mpr hexceeds⟩

theorem retained_card_lt_rounds : c.retained.card < c.rounds := by
  rw [card_retained]
  exact Nat.lt_succ_self _

theorem Sound.evictChannel_spec (h : c.Sound) (hcap : 0 ≤ c.caps.perChannel) (channel : χ) :
    ∃ c', c.evictChannel channel = some c' ∧ Trimmed c c' ∧
      c'.retainedOf channel = topOf c.caps.perChannel.toNat (c.retainedOf channel) ∧
      (∀ k, k.channel ≠ channel → (k ∈ c'.retained ↔ k ∈ c.retained)) ∧
      c'.count channel ≤ c.caps.perChannel := by
  have hround : ∀ d : BoundedCollector ι χ δ, d.Sound →
      (d.caps = c.caps ∧
        topOf c.caps.perChannel.toNat (d.retainedOf channel) =
          topOf c.caps.perChannel.toNat (c.retainedOf channel) ∧
        ∀ k, k.channel ≠ channel → (k ∈ d.retained ↔ k ∈ c.retained)) →
      channelExceeds channel d = true → ∃ k, Evicts d (d.evictFromChannel channel) k ∧
        ((d.evictFromChannel channel).caps = c.caps ∧
          topOf c.caps.perChannel.toNat ((d.evictFromChannel channel).retainedOf channel) =
            topOf c.caps.perChannel.toNat (c.retainedOf channel) ∧
          ∀ k, k.channel ≠ channel →
            (k ∈ (d.evictFromChannel channel).retained ↔ k ∈ c.retained)) := by
    rintro d hd ⟨hcaps, htop, hothers⟩ hexceeds
    have hcount : c.caps.perChannel.toNat < (d.retainedOf channel).card := by
      have hlt := of_decide_eq_true hexceeds
      rw [hcaps, hd.count_eq] at hlt
      omega
    obtain ⟨k, hevicts, hchannel, hleast⟩ := hd.evictFromChannel_evicts
      (Finset.card_pos.mp ((Nat.zero_le _).trans_lt hcount))
    have hkeys : (d.evictFromChannel channel).retainedOf channel =
        (d.retainedOf channel).erase k := by
      ext j
      rw [mem_retainedOf, hevicts.keys, Finset.mem_erase, Finset.mem_erase, mem_retainedOf,
        and_assoc]
    refine ⟨k, hevicts, hevicts.trimmed.caps.trans hcaps, ?_, fun j hj => ?_⟩
    · rw [hkeys, topOf_erase_least (mem_retainedOf.mpr ⟨hevicts.mem, hchannel⟩) hleast hcount, htop]
    · rw [hevicts.keys, Finset.mem_erase, ← hothers j hj, and_iff_right]
      rintro rfl
      exact hj hchannel
  obtain ⟨c', hrun, htrimmed, ⟨_, htop, hothers⟩, hend⟩ :=
    evictWhile_ends hround c.rounds c h ⟨rfl, rfl, fun _ _ => Iff.rfl⟩ retained_card_lt_rounds
  have hcount : c'.count channel ≤ c.caps.perChannel := by
    have hle := of_decide_eq_false hend
    rw [htrimmed.caps] at hle
    omega
  refine ⟨c', hrun, htrimmed, ?_, hothers, hcount⟩
  rw [← htop]
  refine (topOf_eq_self ?_).symm
  rw [htrimmed.sound.count_eq] at hcount
  omega

theorem Sound.evictTotal_spec (h : c.Sound) (hcap : 0 ≤ c.caps.total) :
    ∃ c', c.evictTotal = some c' ∧ Trimmed c c' ∧
      c'.retained = topOf c.caps.total.toNat c.retained := by
  have hround : ∀ d : BoundedCollector ι χ δ, d.Sound →
      (d.caps = c.caps ∧
        topOf c.caps.total.toNat d.retained = topOf c.caps.total.toNat c.retained) →
      totalExceeds d = true → ∃ k, Evicts d d.evictFromAll k ∧
        (d.evictFromAll.caps = c.caps ∧
          topOf c.caps.total.toNat d.evictFromAll.retained =
            topOf c.caps.total.toNat c.retained) := by
    rintro d hd ⟨hcaps, htop⟩ hexceeds
    have hcount : c.caps.total.toNat < d.retained.card := by
      have hlt := of_decide_eq_true hexceeds
      rw [hcaps, ← card_retained] at hlt
      omega
    obtain ⟨k, hevicts, hleast⟩ :=
      hd.evictFromAll_evicts (Finset.card_pos.mp ((Nat.zero_le _).trans_lt hcount))
    refine ⟨k, hevicts, hevicts.trimmed.caps.trans hcaps, ?_⟩
    rw [hevicts.keys, topOf_erase_least hevicts.mem hleast hcount, htop]
  obtain ⟨c', hrun, htrimmed, ⟨_, htop⟩, hend⟩ :=
    evictWhile_ends hround c.rounds c h ⟨rfl, rfl⟩ retained_card_lt_rounds
  refine ⟨c', hrun, htrimmed, ?_⟩
  rw [← htop]
  refine (topOf_eq_self ?_).symm
  have hle := of_decide_eq_false hend
  rw [htrimmed.caps, ← card_retained] at hle
  omega

theorem Sound.retained_nonempty (h : c.Sound) (hbytes : 0 < c.retainedEncodedBytes) :
    c.retained.Nonempty := by
  rw [← Finset.card_pos, card_retained, List.length_pos_iff]
  intro hempty
  rw [h.bytes, Dict.total, hempty] at hbytes
  exact lt_irrefl 0 hbytes

theorem Sound.evictBytes_spec (h : c.Sound) (hcap : 0 ≤ c.caps.bytes) :
    ∃ c', c.evictBytes = some c' ∧ Trimmed c c' ∧
      c'.retainedEncodedBytes ≤ c.caps.bytes ∧
      (c.retainedEncodedBytes ≤ c.caps.bytes → c' = c) := by
  have hround : ∀ d : BoundedCollector ι χ δ, d.Sound → d.caps = c.caps →
      bytesExceed d = true → ∃ k, Evicts d d.evictFromAll k ∧ d.evictFromAll.caps = c.caps := by
    intro d hd hcaps hexceeds
    have hlt := of_decide_eq_true hexceeds
    rw [hcaps] at hlt
    obtain ⟨k, hevicts, _⟩ := hd.evictFromAll_evicts (hd.retained_nonempty (hcap.trans_lt hlt))
    exact ⟨k, hevicts, hevicts.trimmed.caps.trans hcaps⟩
  obtain ⟨c', hrun, htrimmed, _, hend⟩ :=
    evictWhile_ends hround c.rounds c h rfl retained_card_lt_rounds
  refine ⟨c', hrun, htrimmed, ?_, fun hfits => ?_⟩
  · have hle := of_decide_eq_false hend
    rw [htrimmed.caps] at hle
    exact not_lt.mp hle
  · have hnot : bytesExceed c = false := decide_eq_false (not_lt.mpr hfits)
    have hstay : c.evictBytes = some c := if_neg (Bool.eq_false_iff.mp hnot)
    exact Option.some.inj (hrun.symm.trans hstay)

/-- Only the heaps differ. -/
structure SameRows (c c' : BoundedCollector ι χ δ) : Prop where
  byKey : c'.byKey = c.byKey
  counts : c'.channelCounts = c.channelCounts
  bytes : c'.retainedEncodedBytes = c.retainedEncodedBytes
  caps : c'.caps = c.caps
  truncated : c'.truncated = c.truncated

theorem SameRows.trans {c'' : BoundedCollector ι χ δ} (h : SameRows c c') (h' : SameRows c' c'') :
    SameRows c c'' where
  byKey := h'.byKey.trans h.byKey
  counts := h'.counts.trans h.counts
  bytes := h'.bytes.trans h.bytes
  caps := h'.caps.trans h.caps
  truncated := h'.truncated.trans h.truncated

theorem SameRows.retained_eq (h : SameRows c c') : c'.retained = c.retained := by
  rw [retained, h.byKey, retained]

theorem SameRows.trimmed (h : SameRows c c') (hsound : c'.Sound) : Trimmed c c' where
  sound := hsound
  caps := h.caps
  sub _ _ hget := h.byKey ▸ hget
  whole htruncated := ⟨h.truncated ▸ htruncated, h.byKey⟩

theorem mem_values : row ∈ c.byKey.values ↔ ∃ k, c.byKey.get? k = some row := by
  rw [Dict.values, List.mem_map]
  constructor
  · rintro ⟨⟨k, row⟩, hmem, rfl⟩
    exact ⟨k, (c.byKey.mem_entries k row).mp hmem⟩
  · rintro ⟨k, hget⟩
    exact ⟨(k, row), (c.byKey.mem_entries k row).mpr hget, rfl⟩

theorem Sound.compactGlobal_sound (h : c.Sound) :
    c.compactGlobal.Sound ∧ SameRows c c.compactGlobal := by
  rw [compactGlobal]
  split
  case isTrue =>
    refine ⟨⟨⟨h.keyed, h.counts, h.bytes⟩, ⟨fun k row hget => ?_, h.channel, ?_, h.channelRank⟩⟩,
      ⟨rfl, rfl, rfl, rfl, rfl⟩⟩
    · exact Heapq.mem_heapify.mpr (List.mem_map_of_mem (mem_values.mpr ⟨k, hget⟩))
    · intro e he
      obtain ⟨row, _, rfl⟩ := List.mem_map.mp (Heapq.mem_heapify.mp he)
      rfl
  case isFalse => exact ⟨h, ⟨rfl, rfl, rfl, rfl, rfl⟩⟩

theorem mem_channelHeap_erase {other : χ} {e : HeapEntry ι χ} :
    e ∈ (channelHeap { c with channelHeaps := c.channelHeaps.erase channel } other).items ↔
      other ≠ channel ∧ e ∈ (c.channelHeap other).items := by
  rw [channelHeap, Dict.get?_erase]
  by_cases hother : other = channel
  · rw [if_pos hother]
    exact ⟨fun he => (by cases he), fun he => absurd hother he.1⟩
  · rw [if_neg hother]
    exact ⟨fun he => ⟨hother, he⟩, fun he => he.2⟩

theorem Sound.compactChannel_sound (h : c.Sound) (channel : χ) :
    (c.compactChannel channel).Sound ∧ SameRows c (c.compactChannel channel) := by
  have hmem {k : ReadingKey ι χ} {row : CollectedRow ι χ δ} (hget : c.byKey.get? k = some row)
      (hchannel : k.channel = channel) : row.entry ∈
        (c.byKey.values.filter (·.channel = channel)).map (·.entry) := by
    refine List.mem_map_of_mem (List.mem_filter.mpr ⟨mem_values.mpr ⟨k, hget⟩, ?_⟩)
    exact decide_eq_true ((congrArg ReadingKey.channel (h.keyed k row hget)).trans hchannel)
  rw [compactChannel]
  split
  case isFalse => exact ⟨h, ⟨rfl, rfl, rfl, rfl, rfl⟩⟩
  case isTrue =>
    by_cases hempty : (c.byKey.values.filter (·.channel = channel)).map (·.entry) = []
    · simp only [if_pos hempty]
      refine ⟨⟨⟨h.keyed, h.counts, h.bytes⟩, ⟨h.all, fun k row hget => ?_, h.rank, ?_⟩⟩,
        ⟨rfl, rfl, rfl, rfl, rfl⟩⟩
      · refine mem_channelHeap_erase.mpr ⟨fun hchannel => ?_, h.channel k row hget⟩
        have hin := hmem hget hchannel
        rw [hempty] at hin
        cases hin
      · exact fun ch e he => h.channelRank ch e (mem_channelHeap_erase.mp he).2
    · simp only [if_neg hempty]
      refine ⟨⟨⟨h.keyed, h.counts, h.bytes⟩, ⟨h.all, fun k row hget => ?_, h.rank, ?_⟩⟩,
        ⟨rfl, rfl, rfl, rfl, rfl⟩⟩
      · refine (mem_channelHeap_of_set rfl).mpr ?_
        split
        case isTrue hchannel => exact Heapq.mem_heapify.mpr (hmem hget hchannel)
        case isFalse => exact h.channel k row hget
      · intro ch e he
        replace he := (mem_channelHeap_of_set rfl).mp he
        split at he
        case isTrue hchannel =>
          obtain ⟨row, hrow, rfl⟩ := List.mem_map.mp (Heapq.mem_heapify.mp he)
          exact ⟨rfl, (of_decide_eq_true (List.mem_filter.mp hrow).2).trans hchannel.symm⟩
        case isFalse => exact h.channelRank ch e he

theorem foldl_compactChannel_sound : ∀ (channels : List χ) {c : BoundedCollector ι χ δ},
    c.Sound → (channels.foldl compactChannel c).Sound ∧
      SameRows c (channels.foldl compactChannel c)
  | [], _, h => ⟨h, ⟨rfl, rfl, rfl, rfl, rfl⟩⟩
  | channel :: rest, _, h => by
      obtain ⟨hsound, hsame⟩ := h.compactChannel_sound channel
      obtain ⟨hrest, hrestSame⟩ := foldl_compactChannel_sound rest hsound
      exact ⟨hrest, hsame.trans hrestSame⟩

theorem Sound.compactHeaps_sound (h : c.Sound) :
    c.compactHeaps.Sound ∧ SameRows c c.compactHeaps := by
  obtain ⟨hglobal, hsame⟩ := h.compactGlobal_sound
  obtain ⟨hchannels, hrest⟩ := foldl_compactChannel_sound _ hglobal
  exact ⟨hchannels, hsame.trans hrest⟩

end BoundedCollector
end Storage
end CryoDaq
