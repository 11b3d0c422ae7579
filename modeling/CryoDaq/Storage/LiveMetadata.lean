import CryoDaq.Python.Dict
import CryoDaq.Python.ObjectGraph
import CryoDaq.Python.Raising

/-!
# Freezing the metadata of a live reading

A receipt keeps the metadata of its reading as an immutable copy.
`_freeze_live_metadata` makes the copy or rejects the value, and
`_thaw_live_metadata` makes a fresh value of the copy.

**Budgets.**  Two counters run through the whole copy, one of values and one of
bytes.  Each value and each key takes its share before what follows it is looked
at, so a copy is made exactly when the totals fit: the order of spending decides
only which error a rejected value raises.

**Path.**  Containers are remembered only while they are being copied.  A
container that is met again on its own path is a cycle; one that is met again
elsewhere is copied again.

**Depth.**  `freeze left` is the call at depth `MAX_LIVE_METADATA_DEPTH + 1 -
left`; at 0 the source raises, so the recursion ends whatever the value is.
-/

namespace CryoDaq
namespace Storage

open ObjectGraph

def maxLiveMetadataDepth : ℕ := 8
def maxLiveMetadataItems : ℕ := 1024
def maxLiveMetadataTextBytes : ℕ := 65536
def maxLiveMetadataAggregateBytes : ℕ := 1048576

/-- `unicodedata`: the NFC form of a text and the category of a code point. -/
structure Unicode where
  normalize : CodePoints → CodePoints
  category : CodePoint → String

def Unicode.isControl (u : Unicode) (c : CodePoint) : Bool :=
  (u.category c).toList.head? = some 'C'

/-- The bytes of one code point in UTF-8; a surrogate has none. -/
def utf8Width (c : CodePoint) : Option ℕ :=
  if c.val < 0x80 then some 1
  else if c.val < 0x800 then some 2
  else if 0xd800 ≤ c.val ∧ c.val < 0xe000 then none
  else if c.val < 0x10000 then some 3
  else some 4

/-- `len(value.encode("utf-8"))`; `none` when that raises. -/
def utf8Length : CodePoints → Option ℕ
  | [] => some 0
  | c :: rest => do return (← utf8Width c) + (← utf8Length rest)

def boundedLiveText {n : ℕ} (u : Unicode) (field : String) (maximum : ℕ) :
    Ref n → Except String CodePoints
  | .text value => do
      ensure (u.normalize value = value) s!"{field} must be NFC-normalized"
      ensure (value.any u.isControl = false) s!"{field} contains a Unicode control character"
      match utf8Length value with
      | none => .error s!"{field} is not valid Unicode text"
      | some encoded =>
          ensure (encoded ≠ 0 ∧ encoded ≤ maximum) s!"{field} exceeds its bounded text grammar"
          return value
  | _ => .error s!"{field} must be an exact string"

/-- What `_bounded_live_text` lets through. -/
def BoundedText (u : Unicode) (maximum : ℕ) (value : CodePoints) : Prop :=
  u.normalize value = value ∧ value.any u.isControl = false ∧
    ∃ encoded, utf8Length value = some encoded ∧ encoded ≠ 0 ∧ encoded ≤ maximum

/-- `_FrozenValue` -/
inductive Frozen
  | none
  | bool (b : Bool)
  | int (i : ℤ)
  | float (bits : BitVec 64)
  | text (s : CodePoints)
  | sequence (kind : SequenceKind) (items : List Frozen)
  | dict (items : List (CodePoints × Frozen))

structure Budget where
  items : ℕ
  bytes : ℕ
deriving DecidableEq

def consumeItem (b : Budget) : Except String Budget := do
  ensure (1 ≤ b.items) "reading metadata exceeds its item limit"
  return { b with items := b.items - 1 }

def consumeBytes (count : ℕ) (b : Budget) : Except String Budget := do
  ensure (count ≤ b.bytes) "reading metadata exceeds its aggregate byte limit"
  return { b with bytes := b.bytes - count }

/-- The bytes a text or a key takes. -/
def textCost (s : CodePoints) : ℕ := (utf8Length s).getD 0 + 8

/-- `_FrozenList(tuple(freeze(child, depth + 1) for child in item))` -/
def freezeItems {n : ℕ} (freeze : Ref n → Budget → Except String (Frozen × Budget)) :
    List (Ref n) → Budget → Except String (List Frozen × Budget)
  | [], b => .ok ([], b)
  | v :: rest, b => do
      let head ← freeze v b
      let tail ← freezeItems freeze rest head.2
      return (head.1 :: tail.1, tail.2)

/-- The loop over `item.items()`. -/
def freezeFields {n : ℕ} (u : Unicode)
    (freeze : Ref n → Budget → Except String (Frozen × Budget)) :
    List (Ref n × Ref n) → Budget → Except String (List (CodePoints × Frozen) × Budget)
  | [], b => .ok ([], b)
  | p :: rest, b => do
      ensure (p.1.text?.isSome = true) "reading metadata must be an exact string-keyed dict"
      let key ← boundedLiveText u "metadata key" maxLiveMetadataTextBytes p.1
      let b ← consumeBytes (textCost key) b
      let head ← freeze p.2 b
      let tail ← freezeFields u freeze rest head.2
      return ((key, head.1) :: tail.1, tail.2)

/-- What `freeze` does with a value once it was counted and is not too deep. -/
def freezeValue {n : ℕ} (u : Unicode) (m : Memory n)
    (freeze : List (Fin n) → Ref n → Budget → Except String (Frozen × Budget))
    (active : List (Fin n)) (v : Ref n) (b : Budget) : Except String (Frozen × Budget) :=
  match v with
  | .none => do return (.none, ← consumeBytes 8 b)
  | .bool x => do return (.bool x, ← consumeBytes 8 b)
  | .float x => do return (.float x, ← consumeBytes 8 b)
  | .int i => do
      ensure (-9223372036854775808 ≤ i ∧ i ≤ 9223372036854775807)
        "reading metadata integer exceeds signed 64-bit range"
      return (.int i, ← consumeBytes 8 b)
  | .text s => do
      let text ← boundedLiveText (n := n) u "metadata text" maxLiveMetadataTextBytes (.text s)
      return (.text text, ← consumeBytes (textCost text) b)
  | .foreign => .error "reading metadata contains a non-data value"
  | .container a => do
      let b ← consumeBytes 8 b
      ensure (a ∉ active) "reading metadata contains a cycle"
      match m.containers a with
      | .sequence kind items => do
          let done ← freezeItems (freeze (a :: active)) items b
          return (.sequence kind done.1, done.2)
      | .dict items => do
          let done ← freezeFields u (freeze (a :: active)) items b
          return (.dict done.1, done.2)

/-- `freeze(item, depth)` with `left` levels to go. -/
def freeze {n : ℕ} (u : Unicode) (m : Memory n) :
    ℕ → List (Fin n) → Ref n → Budget → Except String (Frozen × Budget)
  | 0, _, _, b => do
      let _ ← consumeItem b
      .error "reading metadata exceeds its depth limit"
  | left + 1, active, v, b => do
      let b ← consumeItem b
      freezeValue u m (freeze u m left) active v b

def liveBudget : Budget := ⟨maxLiveMetadataItems, maxLiveMetadataAggregateBytes⟩

def isDict {n : ℕ} (m : Memory n) : Ref n → Bool
  | .container a =>
      match m.containers a with
      | .dict _ => true
      | .sequence _ _ => false
  | _ => false

def freezeLiveMetadata {n : ℕ} (u : Unicode) (m : Memory n) (value : Ref n) :
    Except String Frozen := do
  ensure (isDict m value = true) "reading metadata must be an exact string-keyed dict"
  let frozen ← freeze u m (maxLiveMetadataDepth + 1) [] value liveBudget
  return frozen.1

mutual
/-- `_thaw_live_metadata`.  The containers of the result are new, so it is given
as what it is written out as. -/
def thaw : Frozen → Data
  | .sequence kind items => .sequence kind (thawItems items)
  | .dict items => .dict (Dict.ofList (thawFields items)).entries
  | .none => .none
  | .bool b => .bool b
  | .int i => .int i
  | .float bits => .float bits
  | .text s => .text s

def thawItems : List Frozen → List Data
  | [] => []
  | f :: rest => thaw f :: thawItems rest

def thawFields : List (CodePoints × Frozen) → List (CodePoints × Data)
  | [] => []
  | p :: rest => (p.1, thaw p.2) :: thawFields rest
end

end Storage
end CryoDaq
