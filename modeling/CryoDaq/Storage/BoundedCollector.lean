import CryoDaq.Python.Dict
import CryoDaq.Python.Heapq
import Mathlib.Data.Prod.Lex
import Mathlib.Algebra.Ring.Int.Defs

/-!
# The bounded reading collector

`_BoundedReadingCollector`: the rows by their key, a heap of all rows and one of each channel, and
the counts and bytes that the caps are about.  Heap entries are not removed when their row is
replaced or removed; an entry is live when the row of its key has its token.

**Texts.**  Instruments and channels are compared as texts; any linear order will do.

**Sizes.**  The length of the canonical JSON of a row is a parameter.  A row with a value that is
not finite has no such text: `offer` raises before it changes anything, and it is no offer here.

**Loops.**  A loop that evicts runs on fuel, one unit for each row and one for the last look.
-/

namespace CryoDaq
namespace Storage

variable {ι χ δ : Type} [LinearOrder ι] [LinearOrder χ]

/-- `(timestamp_us, instrument_id, channel)` -/
abbrev ReadingKey (ι χ : Type) : Type := ℤ ×ₗ (ι ×ₗ χ)

def ReadingKey.channel (k : ReadingKey ι χ) : χ := (ofLex (ofLex k).2).2

/-- The arguments of `offer`. -/
structure Offer (ι χ δ : Type) where
  timestampUs : ℤ
  instrumentId : ι
  channel : χ
  value : Option Float
  unit : String
  status : String
  authority : ℤ ×ₗ ℤ
  descriptor : δ

def Offer.key (o : Offer ι χ δ) : ReadingKey ι χ :=
  toLex (o.timestampUs, toLex (o.instrumentId, o.channel))

structure CollectedRow (ι χ δ : Type) extends Offer ι χ δ where
  token : ℕ
  encodedSize : ℕ

def CollectedRow.key (r : CollectedRow ι χ δ) : ReadingKey ι χ := r.toOffer.key

abbrev HeapEntry (ι χ : Type) : Type := ReadingKey ι χ ×ₗ (ℕ ×ₗ ReadingKey ι χ)

def HeapEntry.rank (e : HeapEntry ι χ) : ReadingKey ι χ := (ofLex e).1
def HeapEntry.token (e : HeapEntry ι χ) : ℕ := (ofLex (ofLex e).2).1
def HeapEntry.key (e : HeapEntry ι χ) : ReadingKey ι χ := (ofLex (ofLex e).2).2

def CollectedRow.entry (r : CollectedRow ι χ δ) : HeapEntry ι χ :=
  toLex (r.key, toLex (r.token, r.key))

structure CollectorCaps where
  perChannel : ℤ
  total : ℤ
  bytes : ℤ

/-- `_BoundedReadingCollector` -/
structure BoundedCollector (ι χ δ : Type) [LinearOrder ι] [LinearOrder χ] where
  caps : CollectorCaps
  byKey : Dict (ReadingKey ι χ) (CollectedRow ι χ δ)
  globalHeap : Heapq (HeapEntry ι χ)
  channelHeaps : Dict χ (Heapq (HeapEntry ι χ))
  channelCounts : Dict χ ℤ
  nextToken : ℕ
  retainedEncodedBytes : ℤ
  rowsExamined : ℕ
  rowsDroppedByCaps : ℕ
  truncated : Bool

namespace BoundedCollector

/-- `__init__` -/
def new (caps : CollectorCaps) : BoundedCollector ι χ δ where
  caps := caps
  byKey := .empty
  globalHeap := .empty
  channelHeaps := .empty
  channelCounts := .empty
  nextToken := 0
  retainedEncodedBytes := 0
  rowsExamined := 0
  rowsDroppedByCaps := 0
  truncated := false

variable (c : BoundedCollector ι χ δ)

/-- `self._channel_counts.get(channel, 0)` -/
def count (channel : χ) : ℤ := (c.channelCounts.get? channel).getD 0

/-- `self._channel_heaps[channel]` -/
def channelHeap (channel : χ) : Heapq (HeapEntry ι χ) :=
  (c.channelHeaps.get? channel).getD .empty

def isLive (e : HeapEntry ι χ) : Bool := (c.byKey.get? e.key).any fun row => row.token = e.token

/-- The row of the entry that `_pop_live` found. -/
def rowOf (e : Option (HeapEntry ι χ)) : Option (CollectedRow ι χ δ) :=
  e.bind fun e => c.byKey.get? e.key

/-- A row leaves the map, its channel's count and the bytes. -/
def remove (row : CollectedRow ι χ δ) : BoundedCollector ι χ δ :=
  let counts := c.channelCounts.set row.channel (c.count row.channel - 1)
  { c with
    byKey := c.byKey.erase row.key
    channelCounts := if c.count row.channel - 1 = 0 then counts.erase row.channel else counts
    retainedEncodedBytes := c.retainedEncodedBytes - row.encodedSize }

def evict (row : CollectedRow ι χ δ) : BoundedCollector ι χ δ :=
  if (c.byKey.get? row.key).any fun current => current.token = row.token then
    { c.remove row with rowsDroppedByCaps := c.rowsDroppedByCaps + 1, truncated := true }
  else c

def evictVictim (victim : Option (CollectedRow ι χ δ)) : BoundedCollector ι χ δ :=
  match victim with
  | none => c
  | some row => c.evict row

/-- One round of the loop over a channel's heap. -/
def evictFromChannel (channel : χ) : BoundedCollector ι χ δ :=
  let popped := (c.channelHeap channel).popLive c.isLive
  { c with channelHeaps := c.channelHeaps.set channel popped.2 }.evictVictim (c.rowOf popped.1)

/-- One round of a loop over the heap of all rows. -/
def evictFromAll : BoundedCollector ι χ δ :=
  let popped := c.globalHeap.popLive c.isLive
  { c with globalHeap := popped.2 }.evictVictim (c.rowOf popped.1)

/-- `while over: round` -/
def evictWhile (exceeds : BoundedCollector ι χ δ → Bool)
    (round : BoundedCollector ι χ δ → BoundedCollector ι χ δ) :
    ℕ → BoundedCollector ι χ δ → Option (BoundedCollector ι χ δ)
  | 0, _ => none
  | fuel + 1, c => if exceeds c then evictWhile exceeds round fuel (round c) else some c

def channelExceeds (channel : χ) (c : BoundedCollector ι χ δ) : Bool :=
  c.caps.perChannel < c.count channel

/-- `len(self._by_key) > self._total_cap` -/
def totalExceeds (c : BoundedCollector ι χ δ) : Bool :=
  c.caps.total < (c.byKey.entries.length : ℤ)

/-- `self.retained_encoded_bytes > self._byte_cap` -/
def bytesExceed (c : BoundedCollector ι χ δ) : Bool := c.caps.bytes < c.retainedEncodedBytes

def rounds : ℕ := c.byKey.entries.length + 1

/-- The three loops of `offer`. -/
def evictChannel (channel : χ) : Option (BoundedCollector ι χ δ) :=
  evictWhile (channelExceeds channel) (evictFromChannel · channel) c.rounds c

def evictTotal : Option (BoundedCollector ι χ δ) :=
  evictWhile totalExceeds evictFromAll c.rounds c

def evictBytes : Option (BoundedCollector ι χ δ) :=
  evictWhile bytesExceed evictFromAll c.rounds c

def compactGlobal : BoundedCollector ι χ δ :=
  if 2 * c.byKey.entries.length + 64 < c.globalHeap.items.length then
    { c with globalHeap := .heapify (c.byKey.values.map (·.entry)) }
  else c

def compactChannel (channel : χ) : BoundedCollector ι χ δ :=
  if 2 * c.count channel + 64 < ((c.channelHeap channel).items.length : ℤ) then
    let entries := (c.byKey.values.filter (·.channel = channel)).map (·.entry)
    { c with channelHeaps :=
      if entries = [] then c.channelHeaps.erase channel
      else c.channelHeaps.set channel (.heapify entries) }
  else c

def compactHeaps : BoundedCollector ι χ δ :=
  c.compactGlobal.channelHeaps.keys.foldl compactChannel c.compactGlobal

variable (size : Offer ι χ δ → ℕ)

/-- The row of an offer in the map, its channel's count, the bytes and both heaps. -/
def place (o : Offer ι χ δ) : BoundedCollector ι χ δ :=
  let row : CollectedRow ι χ δ := { o with token := c.nextToken + 1, encodedSize := size o }
  let replaced := c.byKey.get? o.key
  { c with
    byKey := c.byKey.set o.key row
    globalHeap := c.globalHeap.push row.entry
    channelHeaps := c.channelHeaps.set o.channel ((c.channelHeap o.channel).push row.entry)
    channelCounts :=
      if replaced.isSome then c.channelCounts
      else c.channelCounts.set o.channel (c.count o.channel + 1)
    nextToken := c.nextToken + 1
    retainedEncodedBytes :=
      c.retainedEncodedBytes - (replaced.map (·.encodedSize)).getD 0 + size o }

def outranked (o : Offer ι χ δ) : Bool :=
  (c.byKey.get? o.key).any fun prior => o.authority ≤ prior.authority

def offer (o : Offer ι χ δ) : Option (BoundedCollector ι χ δ) :=
  if c.caps.bytes < (size o : ℤ) then
    some { c with rowsDroppedByCaps := c.rowsDroppedByCaps + 1, truncated := true }
  else if c.outranked o then some c
  else do
    let c ← (c.place size o).evictChannel o.channel
    let c ← c.evictTotal
    let c ← c.evictBytes
    return c.compactHeaps

def offerEach : List (Offer ι χ δ) → BoundedCollector ι χ δ → Option (BoundedCollector ι χ δ)
  | [], c => some c
  | o :: rest, c => do
      let c ← c.offer size o
      offerEach rest c

/-- `sorted(self._by_key.values(), key=lambda row: row.rank)` -/
def ordered : List (CollectedRow ι χ δ) := c.byKey.values.mergeSort (·.key ≤ ·.key)

def noteExamined : BoundedCollector ι χ δ := { c with rowsExamined := c.rowsExamined + 1 }

def mergeVerified (staged : BoundedCollector ι χ δ) : Option (BoundedCollector ι χ δ) :=
  offerEach size (staged.ordered.map (·.toOffer))
    { c with
      rowsExamined := c.rowsExamined + staged.rowsExamined
      rowsDroppedByCaps := c.rowsDroppedByCaps + staged.rowsDroppedByCaps
      truncated := c.truncated || staged.truncated }

def rejectUnverified (staged : BoundedCollector ι χ δ) : BoundedCollector ι χ δ :=
  { c with rowsExamined := c.rowsExamined + staged.rowsExamined }

def discardIfCurrent (key : ReadingKey ι χ) (authority : ℤ ×ₗ ℤ) : BoundedCollector ι χ δ :=
  match c.byKey.get? key with
  | none => c
  | some row => if row.authority ≠ authority then c else c.remove row

/-- `finish`, the readings of the rows in order -/
def finish : List (Offer ι χ δ) := c.ordered.map (·.toOffer)

end BoundedCollector

end Storage
end CryoDaq
